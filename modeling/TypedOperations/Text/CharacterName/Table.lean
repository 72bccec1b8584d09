/-!
# Character names

The names of characters, in order and without what each shares with the name before it. The names of ideographs and syllables
that follow from their code points are left out.
-/

namespace TypedOperations.Text

/-- What the marks in the rows of names stand for: the parts of rows that come most often. -/
def characterNameMarks : List (Char × String) :=
  [('!', "0b1b2b3b4b5b6b7b8b9"), ('#', "IGIT EIGHTfFIVEdOUReNINEeONEdSEVENeIXdTHREEeWO"), ('$', " FORM"), ('%', "WITH "),
   ('&', "AR"), ('(', "IN"), (')', "AL"), ('*', "ER"), (',', "LE"), ('.', " ABOVE"), (':', "ON"), (';', "AN"), ('<', "IGHT"),
   ('=', "a "), ('>', "AbHA"), ('?', " SIGN"), ('@', "AbBbCbDbEbF"), ('[', "SOLATED"), (']', "ED "), ('^', "EN"),
   ('_', "TI"), ('|', "BELOW"), ('~', "Ac")]

/-- The names of characters. A small letter, after a plus sign for each 26, says how many characters at the end of the name
before are left out for the next name; the characters it adds follow, with marks for some of them. The ends of lines do not
count. -/
def characterNameRows : String :=
"aABACUSfC CURR^TiCORDI:fUNT OFiKaNOW,DGEj_VATE &ABIC$ SHAP(GtSYMMETRIC SWAPP(GzUTE ACC^TfNG,kDDRESS]TO THE SUBJECTwHESIVE B;DA
GEoI SHAK_iLAM )IF ,NGTH^*pCAPIT) ,TT* )IFeBAbHEdCHIdDA)IeHAdEbF~GAbBEdH~IbJIIMeKAFcH~POdLAAMeMIIMeNH~UNcYAdObPEcQAAFeR~SH~(NY
IIYHEkTUcUbV~WAWdYAbHEdZ)r:S:;T MODIFI*sD#dZ*OkGEM(ATE C:S:;T MODIFI*uI: M&KpHAMZAf(I_) EXCLAMA_: M&KqQUES_: M&KvNAS)IZA_: M&K
qUKTAfSM)L ,TT* )IFeBAbHEdCHIdDA)IeHAdEbF~GAbBEdH~IbJIIMeKAFcH~POdLAAMeMIIMeNH~UNcYAdObPEcQAAFeR~SH~(NYIIYHEkTUcUbV~WAWdYAbHEd
Z)qVOWEL ,NGTH^*uMETOSeISSI: _CKETSpULTeEGE; CHECK M&KkDRY MEASURE FIRST SUBUNITzLIQUID MEASURE FIRST SUBUNIT+cMEASURE SEC:D S
UBUNIToTHIRD SUBUNITvNUMB* E<=HUNDREDhTHOUS;DjY=THOUS;DpFIFTY=THOUS;DmVE=HUNDREDhTHOUS;DmORTY=THOUS;DmUR=HUNDREDhTHOUS;DnN(E=H
UNDREDhTHOUS;DjTY=THOUS;Dp:E=HUNDREDhTHOUS;DmSEV^=HUNDREDhTHOUS;DjTY=THOUS;DpIX=HUNDREDhTHOUS;DjTY=THOUS;DoT^=THOUS;DlHIRTY=TH
OUS;DnREE=HUNDREDhTHOUS;DnW^TY=THOUS;DnO=HUNDREDhTHOUS;DtWE< BASE UNITjFIRST SUBUNITmOURTH SUBUNIToSEC:D SUBUNIToTHIRD SUBUNIT
tORD SEP&ATOR DOTdL(EyRI) TRAMWAYnFGH;I?lHOM C:S:;T? MEDI) LAbIGAT(G RAlRAyD#dZ*Ok,TT* AaLT*NATE B~G~TAmB>dC>dDAbD>dHAdG>dH~J>
dK>dLAbLAdM~NAbG~N~YAdP>dR~S~T>cT>lNUMB* T^cW^TYnSIGN KILL*gRULAIfSEC_:gM)L SEC_:rYMBOL VIjVOWEL? AaAbIbMbWcEbIaIcObUaUrIRPL;
E=&RIV(GiDEP&TURErK_ESELSKABlL&M CLOCKjCHEMIC) SYMBOL FOR AIRc,MBICfK)Ia-2gUMdM)GAMgN_M:Y ORElQUA REGIAa-2hVITAEa-2iFOR_SjRS^I
CgSHESeURIPIGM^TlBATH OF M&YeVAPOURSoISMUTH OREkLACK SULFURlORAXa-2b3gRICKfCADUCEUSgLXcPUT MORTUUMm(NAB&hOPP* ;_M:IATElOREjROC
US OF COPP*a-2iIR:mUCIB,a-2b3b4b5kDAY-N<iISSOLVEa-2h_LLhE&THfFIREeGOLDdUMdH)F DRAMeOUNCEjORSE DUNGiUReIR: OREa-2g-COPP* OREp,A
D OREhODEST:EjM&CASITEi*CURY SUBLIMATEa-2b3s:THfN<dTREfOILdPHILOSOPH*S SULFURsOT ASHEShWD*a]BRICKnRECIPITATEkURIFYeTREFAC_:mQU
ICK LIMEhNTESS^CEmRE)G&a-2hGULUS=OF ;_M:Ya-2kIR:i-2b3b4hTORTfOCK S)Ta-2lS)-AMM:IACjT=OF ;_M:YiCOPP* ;_M:IATEzCEPT* OF JOVEoIL
V*fOAPdPIRITfT&R]TRID^TnRATUM SUP* STRATUMa-2wUBLIMATE OF ;_M:YiCOPP*gS)T OF ;_M:YiCOPP*tI:jLFURgT&T&a-2h( OREeCTUREhRID^TgUTT
YfUR(EfV*DIGRISi(EG&=OF ;_M:Ym-2b3hTRIOLa-2jWAT*dXxEF SYMBOLiMBICeRTdI^ M:ST*lL &OUND-PROFI,oEQU) TOkMaOST EQU) OR EQU) TOlT
O=%CIRCUMF,X ACC^T+kT*NATE :E-WAY ,FT WAY TRAFFIC+aIVE KEY SYMBOLvM)GAMA_: OR COPRODUCTxBUL;CEh*IC; FOOTB)LpP*S;DgHORAgNATOL
I; HI*OGLYPH A001b2b3b4b5b6b7b8b9c10a~1b2b3b4b5b6b7b8b9c20b1b2b3b4b5b6a~7b8b9c3!aAd40b1a~2b3b4b5a~6aAbBc7b8b9c5!c60b1b2b3b4b5b
6aAbBbCc7b8b9c7!c8!c90b1b2b3b4b5b6b7a~8a~9d100a~1a~2a~3b4aAbBbCc5aAbBc6b7aAbBbCc8b9c10aAbBc1b2b3b4b5a~6b7b8b9c20b1b2b3b4b5a~6b
7b8b9c30b1b2b3b4b5a~6b7b8b9c4!c5!c6!c7!c8!c9!d200b1b2aAbBc3b4b5b6b7a~8b9aAd10b1b2b3b4b5a~6a~7b8b9c20b1b2b3b4b5b6b7a~8b9c3!c4!c
5!c60b1b2b3b4b5b6b7a~8b9c7!c8!aAd90b1b2b3b4a~5b6b7b8b9aAe30!aAd1!c2!aAd30b1b2AbBbCc3b4b5b6aAbBbCc7b8b9c4!c5!aAd60b1b2b3b4a~5b6
b7b8a~9c70b1a~2b3b4b5b6b7b8b9c80b1a~2b3 RA OR RIj~4b5b6a~7b8b9c90b1b2b3 E<h4b5b6b7b8b9d40!c10 BEG( LOGOGRAM M&KuA ^D LOGOGRA
M M&Ku1b2b3b4b5b6b7b8b9c2!c3!c4!c50a~1b2b3b4b5b6b7a~8b9c6!c7!c8!c90b1b2b3b4b5b6b7d501b2b3b4b5b6b7b8b9c1!c2!c30uMIC) HE&ToCHORe
D %DOTkG* SYMBOLj,=%S (SIDEiUND*B&qRY FACEhSTROM?kUISH]FACEmKHcTa^NA %B&SoICLOCKWISE CLOS]CIRC, &ROWs:TOUR (TEGR)qDOWNW&DS ;
D UPW&DS OP^ CIRC, &ROWS+oGAPP]CIRC, &ROWt(TEGRA_:lOP^ CIRC, &ROWrTOP SEMICIRC, &ROWtRI;G,-HEAD]BOTTOM U-SHAP]&ROWv,FT U-SHA
P]&ROWtOP^ CIRC, &ROWrR< U-SHAP]&ROWuTOP U-SHAP]&ROW+vPCbL FUNC_:) SYMBOL )PHA=UND*B&oBACKSLASH B&nCIRC, BACKSLASHjDIA*ESISjJO
TdST&cI,fUND*B&oOMMA B&jDEL DIA*ESISjS_,f_LDEgTA S_,fUND*B&nIAM:D UND*B&pOWN C&ET _LDElSHOE S_,kTACK JOTdUND*B&oW&DS V;EoEPSI
L: UND*B&qGREAT*-TH; DIA*ESISwI-BEAMfOTA=UND*B&nJOT DIA*ESISjUND*B&m,FT SHOE S_,lW&DS V;EoOMEGA=UND*B&oQUAD=BACKSLASHjCIRC,fO
L:fDELaTAeIAM:DfVIDEfOWN C&ETgW&DS &ROWpEQU)fGREAT*-TH;mJOTd,FTW&DS &ROWnSS-TH;jNOT EQU)jQUES_:iR<W&DS &ROWqSLASHfUP C&ETgW&D
S &ROWqOTE QUADeUND*B&oRHOc<W&DS V;EpSEMICOL: UND*B&rLASH B&iQUISH QUADkT& DIA*ESISmI, _LDEl_LDE DIA*ESISpUP C&ET _LDElSHOE JO
TiTACK DIA*ESISjJOTdOV*B&nW&DS V;EmZILDEzOLL:eSTROPHEiPLICA_: PROGRAM COMM;DyROACHES THE LIMITpXIMATELY BUT NOT ACTU)LY EQU) T
OzEQU) OR EQU) TOlTO=OR THE IMAGE OF+lQU&IUShRABIC BASEL(E ROUND DOTsCOMMAeURLY DAMMAaT;iFATHAaT;iKASRAaT;oDAMMA=I[$nMEDI)$l%D
OTjT;=I[$uTE SEP&ATORnECIM) SEP&ATORqISPUT]^D OF AYAHtOUB, R< &ROWHEAD.=%DOT+fD MADDAnEMPTY C^TRE HIGH STOPjLOW STOPuND OF AYA
HeTEXT M&KqFATHA=I[$nMEDI)$l%DOT.jR(GeTWO DOTSoT;=I[$vIVE PO(T]ST&qOOTNOTE M&K*oULL STOPjH)F MADDA OV* MADDAtMZA.f|l(V*T]DAMMA
oKASRA=I[$nMEDI)$l%DOT |pT;=I[$wL&GE CIRC, |mROUND DOT.f|f(SIDE CIRC, |+iEFT &ROWHEAD.f|sTT* AEbFRIC; FEHdNO:eQAF=%THREE DOT
S.+g(=F()$k(I_)$l[$nMEDI)$l%THREE DOTS.f|fPO(T(G DOWNW&DS.+iWO DOTS.fV*_C)LY.+h,F=F()$kI[$nMAKSURA=F()$kI[$vWASLA=F()$kI[$sIT
H ATTACH]BOTTOM R< KASRA=;D DOT.j,FT R(G+gFATHAfKASRAf,FT HAMZAfROUND DOToR< HAMZAfROUND DOToOUND DOT.f|pTOP R< FATHA=;D DOT.
j,FT R(G+mDOT.jEXT^D]&ABIC-(DIC DIGIT THREE.kWO.+lHAMZA.=F()$kI[$t|=F()$kI[$z,FT MIDD, STROKEsMADDA.=F()$kI[$zR< MIDD, STROK
E=;D DOT.j,FT R(G+hWAVY HAMZA.f|+aBEEH=F()$k(I_)$l[$nMEDI)$oH=F()$k(I_)$l[$nMEDI)$l%DOT | ;D THREE DOTS.+eHAMZA.l(V*T]SM)L V |
wSM)L MEEM.kV=|nTHREE DOTS HORIZ:T)LY |sPO(T(G UPW&DS |=;D TWO DOTS.+zWO DOTS | ;D DOT.+iEH=F()$k(I_)$l[$nMEDI)$rDAD=F()$k(
I_)$l[$nMEDI)$l%DOT |qH)=F()$kI[$rL=F()$kI[$n%DOT |=;D SM)L TAHxFOUR DOTS.p(V*T]SM)L V |nVkR(GeTHREE DOTS. DOWNW&DSp|pWO DOT
S V*_C)LY | ;D SM)L TAH+vDAH)=F()$kI[$rL=F()$kI[$rOT,SS BEHdFEHdQAFkUL=F()$kI[$qYEH=F()$k(I_)$l[$nMEDI)$qE=F()$k(I_)$l[$nMED
I)$nF&SI YEH=F()$k(I_)$l[$nMEDI)$l%EXT^D]&ABIC-(DIC DIGIT FOUR |kTHREE.kWO.+l(V*T]VkTHREE DOTS.pWO DOTS.+cEH=F()$k(I_)$l[$nMED
I)$l%DOT |=;D THREE DOTS.+aMOV]|pTHREE DOTS |fPO(T(G UPW&DS |+gWO DOTS |xGAF=F()$k(I_)$l[$nMEDI)$l%(V*T]STROKEpR(GeTHREE DOTS.
pWO DOTS |wHA(=F()$k(I_)$l[$nMEDI)$l%DOT |jTHREE DOTS.+aRAFdUEH=F()$k(I_)$l[$nMEDI)$qHAH=F()$k(I_)$l[$nMEDI)$l%EXT^D]&ABIC-(DI
C DIGIT FOUR |+mHAMZA.l(V*T]SM)L V |wSM)L &ABIC ,TT* TAH.eND TWO DOTSm|+dTHREE DOTS.fPO(T(G UPW&DS |+gWO DOTS.fV*_C).+eMZA=I[$
sEH=DOACHASHMEE=F()$k(I_)$l[$nMEDI)$xF()$kGO)=F()$k(I_)$l[$nMEDI)$l%HAMZA.v(I_)$l[$nMEDI)$l%(V*T]VkYEH.=F()$kI[$+fIGH HAMZA=)E
FeWAWdYEHoJEEM=F()$k(I_)$l[$nMEDI)$l%THREE DOTS.f|pWO DOTS.wH=F()$kI[$rKAF=F()$k(I_)$l[$nMEDI)$l%DOT.f|jR(GeTHREE DOTS |pWO DO
TS.vSHMIRI YEHlEHEH=F()$k(I_)$l[$nMEDI)$l%DOT.jSM)L VhTHREE DOTS.f|fPO(T(G UPW&DS |+gWO DOTS.fV*_C)LY |+jHAH=F()$k(I_)$l[$nMED
I)$pIRGHIZ OE=F()$kI[$qYU=F()$kI[$yLAM=F()$k(I_)$l[$nMEDI)$l%B&dDOT.hUB, B&kSM)L &ABIC ,TT* TAH.xVhTHREE DOTS.f|yOW )EFiM&KdEE
M=F()$k(I_)$l[$nMEDI)$l%DOT.f|jTHREE DOTS.+aNG=F()$k(I_)$l[$nMEDI)$mOEH=F()$k(I_)$l[$nMEDI)$qO:=F()$kGHUNNA=F()$kI[$u(I_)$l[$n
MEDI)$l%DOT |j(V*T]SM)L VqR(GeSM)L TAHdVhTHREE DOTS.pWO DOTS |xYEH=F()$k(I_)$l[$nMEDI)$qOE=F()$kI[$qPEH=F()$k(I_)$l[$nMEDI)$l%
SM)L MEEM.kVnEH=F()$k(I_)$l[$nMEDI)$rQAF=F()$k(I_)$l[$nMEDI)$l%DOT.f|=;D NO DOTS.+bTHREE DOTS.zREH=F()$kI[$n%DOT |=;D DOT.xFOU
R DOTS.pHAMZA.l(V*T]VkLOOPeR(GeSM)L &ABIC ,TT* TAH ;D TWO DOTS+eNO:.kV=|mTROKEgTWO DOTS.fV*_C)LY.+hNO:=F()$k(I_)$l[$nMEDI)$qO
H(GYA YEHlREH=F()$kI[$sSAD=F()$k(I_)$l[$nMEDI)$l%THREE DOTS.f|pWO DOTS |wE^=F()$k(I_)$l[$nMEDI)$l%DOT | ;D DOT.xEXT^D]&ABIC-(D
IC DIGIT FOUR.+mFOUR DOTS.p(V*T]VkSM)L &ABIC ,TT* TAH ;D TWO DOTS+kTHREE DOTS |=;D THREE DOTS.+kWO DOTS V*_C)LY.+iHE^=F()$k(
I_)$l[$nMEDI)$l%DOT |tTRA< WAWlUP*SCRIPT )EFpWASH KAFjTAH=F()$k(I_)$l[$nMEDI)$l%DOT |jTHREE DOTS.f|pWO DOTS.wCHEH=F()$k(I_)$
l[$nMEDI)$l%DOT.jSM)L VnEH=F()$k(I_)$l[$nMEDI)$sEH=F()$k(I_)$l[$nM&BUTA=F()$kGO)eI[$uEDI)$l%R(GeSM)L TEH.jVhTHREE DOTS. DOWNW&
DS+gEH=F()$k(I_)$l[$nMEDI)$qH)=F()$kI[$qEH=F()$k(I_)$l[$nMEDI)$o( YEHhTEH=F()$k(I_)$l[$nMEDI)$l%SM)L VnEH=F()$k(I_)$l[$nMEDI)$
sU=F()$kI[$n%HAMZA.=I[$+fIGHUR KAZAKH KIRGHIZ )EF MAKSURA (I_)$mMEDI)$+uVE=F()$kI[$oH=F()$k(I_)$l[$nMEDI)$pWAW=F()$kI[$n%DOT.f
WITH(kEXT^D]&ABIC-(DIC DIGIT THREE.kWO.+lHAMZA.=F()$kI[$zR(GeTWO DOTS.xYEH=B&REE=F()$kI[$n%EXT^D]&ABIC-(DIC DIGIT THREE.kWO.+l
HAMZA.=F()$kI[$+lF()$k(I_)$l[$nMEDI)$l%HAMZA.=F()$k(I_)$l[$nMEDI)$xSM)L VhTAILdHREE DOTS |pWO DOTS | ;D DOT.jHAMZA.lSM)L NO:.+
rU=F()$kI[$qZAH=F()$k(I_)$l[$nMEDI)$n(=F()$kI[$n%(V*T]V.+gIGATURE A( %)EF MAKSURA F()$kI[$+aJEEM (I_)$l[$n%MEEM F()$k(I_)$+bME
EM (I_)$l[$n%)EF MAKSURA F()$xMEEM F()$k(I_)$rYEH F()$yYEH F()$kI[$zKB& I[$sLAYHAA AS-S)AAMmE I[$pI AS-S)AAMbTU WAS-S)AAMwM A
S-S)AAMkAA AS-S)AAMrEF MAKSURA %SUP*SCRIPT )EF F()$kI[$+r%FATHAT; F()$kI[$+eLAH I[$sZZA WA J)LmBEH %)EF MAKSURA F()$kI[$+aHA
H (I_)$l[$n%YEH F()$wEH (I_)$mMEDI)$pJEEM (I_)$l[$sKHAH (I_)$l[$n%YEH F()$yMEEM F()$k(I_)$l[$nMEDI)$qNO: F()$pREH F()$oYE
H F()$kI[$rZA( F()$xISMILLAH &-RAHM; &-RAHEEM+dDAD %)EF MAKSURA F()$kI[$+aHAH (I_)$l[$n%)EF MAKSURA F()$xYEH F()$xJEEM (I_)$
l[$sKHAH (I_)$l[$n%MEEM F()$k(I_)$+bMEEM (I_)$l[$sREH F()$kI[$rYEH F()$kI[$+aFEH %)EF MAKSURA F()$kI[$+aHAH (I_)$l[$rJEEM (
I_)$l[$sKHAH (I_)$l[$n%MEEM F()$k(I_)$+bMEEM (I_)$l[$n%YEH F()$yYEH F()$kI[$+aGHA( %)EF MAKSURA F()$kI[$+aJEEM (I_)$l[$sMEEM (
I_)$l[$n%)EF MAKSURA F()$xMEEM F()$pYEH F()$yYEH F()$kI[$+cHAH %)EF MAKSURA F()$kI[$+aJEEM (I_)$l[$n%YEH F()$yMEEM (I_)$l[$n%)
EF MAKSURA F()$xYEH F()$yYEH F()$kI[$zEH %)EF MAKSURA I[$+aJEEM (I_)$l[$sMEEM (I_)$l[$n%JEEM (I_)$rMEEM (I_)$+bSUP*SCRIPT )E
F (I_)$+dYEH I[$+aJ)LAJ))OUHOUoEEM %)EF MAKSURA F()$kI[$+aHAH (I_)$l[$n%)EF MAKSURA F()$xYEH F()$xMEEM (I_)$l[$n%)EF MAKSUR
A F()$xHAH F()$k(I_)$qYEH F()$yYEH F()$kI[$+bKAF %)EF F()$kI[$nMAKSURA F()$kI[$+aHAH (I_)$l[$rJEEM (I_)$l[$sKHAH (I_)$l[$sLA
M F()$k(I_)$l[$nMEDI)$pMEEM F()$k(I_)$l[$nMEDI)$l%MEEM F()$k(I_)$rYEH F()$yYEH F()$kI[$zHAH %)EF MAKSURA F()$kI[$+aHAH I[$rJEE
M (I_)$l[$sMEEM (I_)$l[$sYEH F()$kI[$+bLAM %)EF F()$kI[$nMAKSURA F()$kI[$v%HAMZA. F()$kI[$t| F()$kI[$zMADDA. F()$kI[$+jHAH (
I_)$l[$n%)EF MAKSURA F()$xMEEM F()$k(I_)$rYEH F()$wEH (I_)$qJEEM (I_)$l[$n%JEEM F()$k(I_)$rMEEM F()$k(I_)$rYEH F()$yKHAH (I_)$
l[$n%MEEM F()$k(I_)$+bMEEM F()$k(I_)$l[$nMEDI)$l%HAH F()$k(I_)$qYEH F()$yYEH F()$kI[$+aMEEM %)EF F()$kMAKSURA I[$+aHAH (I_)$
l[$n%JEEM (I_)$rMEEM (I_)$rYEH F()$xJEEM (I_)$l[$n%HAH (I_)$qKHAH (I_)$rMEEM (I_)$rYEH F()$yKHAH (I_)$l[$n%JEEM (I_)$rMEEM (
I_)$rYEH F()$yMEEM F()$k(I_)$l[$n%YEH F()$yYEH I[$+aOHAMMAD I[$wNO: %)EF MAKSURA F()$kI[$+aHAH (I_)$l[$n%)EF MAKSURA F()$xMEE
M (I_)$rYEH F()$wEH (I_)$mMEDI)$pJEEM (I_)$l[$n%)EF MAKSURA F()$xHAH F()$k(I_)$qMEEM F()$k(I_)$rYEH F()$yKHAH (I_)$l[$sMEE
M F()$k(I_)$l[$nMEDI)$l%)EF MAKSURA F()$xYEH F()$yNO: F()$pREH F()$oYEH F()$kI[$rZA( F()$zQAF %)EF MAKSURA F()$kI[$+aHAH (I_)$
l[$rMEEM (I_)$l[$n%HAH F()$k(I_)$qMEEM F()$pYEH F()$yYEH F()$kI[$yLA US]AS KOR;IC STOP? I[$+rUDDISA SIRRAHoRADI )LAAHU ;HaA~UM
aAAdNNAsHIMAHU )LAAHhM )LAAHoSOUL I[$tEH %SUP*SCRIPT )EF I[$+nSAD %)EF MAKSURA F()$kI[$+aHAH (I_)$l[$n%HAH F()$k(I_)$qYEH F()$
xKHAH (I_)$rMEEM (I_)$l[$n%MEEM F()$k(I_)$+bREH F()$kI[$rYEH F()$kI[$yLAAMUHU )AYNAAnM I[$qLA I[$nUS]AS KOR;IC STOP? I[$+oLLAA
HU )AYHI WA-A)IHtHOU )AYHE WAS)LAMsU )AYHI WAA)IHEE WA-S)LAM+kE^ %)EF MAKSURA F()$kI[$+aHAH (I_)$l[$nMEDI)$l%JEEM (I_)$zEH (
I_)$mMEDI)$pJEEM (I_)$l[$nMEDI)$l%)EF MAKSURA F()$xHAH (I_)$+aKHAH (I_)$l[$nMEDI)$l%)EF MAKSURA F()$xYEH F()$yMEEM (I_)$l[$nME
DI)$l%HAH F()$k(I_)$qJEEM (I_)$rMEEM F()$k(I_)$+bREH F()$kI[$rYEH F()$kI[$+aHADDA %DAMMA I[$nMEDI)$mT; I[$wFATHA I[$nMEDI)$rKA
SRA I[$nMEDI)$mT; I[$wSUP*SCRIPT )EF I[$+oE^ %)EF MAKSURA F()$kI[$+aHAH F()$k(I_)$l[$nMEDI)$l%MEEM F()$k(I_)$rYEH F()$wEH (
I_)$mMEDI)$pJEEM F()$k(I_)$l[$nMEDI)$l%YEH F()$yKHAH F()$k(I_)$l[$nMEDI)$qMEEM F()$k(I_)$l[$nMEDI)$l%KHAH F()$k(I_)$rMEEM F()$
k(I_)$+bREH F()$kI[$rYEH F()$kI[$+bUBHA;AHU WA TAA)AAvTABA&AKA WA-TAA)AAsH %)EF MAKSURA F()$kI[$+aHAH (I_)$l[$rMEEM (I_)$l[$nM
EDI)$l%HAH F()$k(I_)$qMEEM (I_)$rYEH F()$yYEH F()$kI[$zEH %)EF MAKSURA F()$kI[$+aHAH (I_)$l[$n%JEEM F()$k(I_)$rMEEM (I_)$zEH (
I_)$mMEDI)$pJEEM (I_)$l[$n%)EF MAKSURA F()$xMEEM (I_)$rYEH F()$yKHAH (I_)$l[$n%)EF MAKSURA F()$xMEEM (I_)$rYEH F()$yMEEM F()$
k(I_)$l[$nMEDI)$l%)EF MAKSURA F()$xHAH (I_)$qJEEM (I_)$rKHAH (I_)$rYEH F()$yNO: F()$pREH F()$oYEH F()$kI[$rZA( F()$xH) %SUP*SC
RIPT )EF I[$+mEH %)EF MAKSURA F()$kI[$+aHEH MEDI)$pJEEM I[$sMEEM F()$k(I_)$l[$nMEDI)$qNO: F()$pREH F()$oYEH F()$kI[$rZA( F()$z
UIGHUR KIRGHIZ YEH %HAMZA. %)EF MAKSURA F()$k(I_)$l[$++pWAS)LAM I[$wYEH %)EF MAKSURA F()$kI[$+aHAH (I_)$l[$n%YEH F()$vMZA. %A
E F()$kI[$p,F F()$kI[$nMAKSURA F()$kI[$+aE F()$k(I_)$l[$pHAH (I_)$l[$qEH (I_)$mMEDI)$pJEEM (I_)$l[$sKHAH (I_)$rMEEM F()$k(I_)$
l[$nMEDI)$qNO: F()$pOE F()$kI[$qREH F()$oU F()$kI[$pWAW F()$kI[$rYEH F()$kI[$qU F()$kI[$qZA( F()$+fEH (I_)$mMEDI)$pJEEM (I_)$
l[$n%YEH F()$yKHAH (I_)$l[$sMEEM F()$k(I_)$l[$nMEDI)$l%MEEM F()$k(I_)$rYEH F()$yNO: F()$pREH F()$oYEH F()$kI[$rZA( F()$yZAH %M
EEM (I_)$l[$nMEDI)$+iMADDA WAAJIBhH.kRK NO: GHUNNAlSIDEWAYS NO: GHUNNAxTHEMA_C) A(c,FeBEHdDADbLcOT,SS BEHdFEHdNO:eQAFjUB,-STRU
CK A(dBEHdDADbLdFEHdGHA(fHAHdJEEMeKHAHeLAMdMEEMeNO:eQAFdREHdSADcE^dHE^fTAHcEHcH)cEHeWAWdYEHdZAHb(sFEHdGHA(fHAHd(I_) A(dBEHdDAD
dFEHdGHA(fHAHcEHdJEEMeKAFcHAHeLAMdMEEMeNO:eQAFdSADcE^dHE^fTEHcHEHeYEHlJEEMeKAFcHAHeLAMcOOP]A(c,FeBEHdDADbLdFEHdGHA(fHAHcEHdJEE
MeKHAHeLAMdMEEMeNO:eQAFdREHdSADcE^dHE^fTAHcEHcH)cEHeWAWdYEHdZAHb(lMEEMeNO:eOP*ATOR HAH %D)mMEEM %HAH %TATWEEL+jQAFdREHdSADcE^d
HE^eTRETCH]A(dBEHdDADcOT,SS BEHdFEHlFEHdGHA(fHAHcEHdJEEMeKAFcHAHeMEEMeNO:eQAFdSADcE^dHE^fTAHcEHcHEHeYEHdZAHnTAHbI,D A(dDADcOT,
SS NO:eQAFlGHA(fHAHdJEEMeKHAHeLAMdNO:eQAFdSADcE^dHE^fYEHjEHcH)cEHeWAWdYEHdZAHb(rNUMB* M&K.kSIGNlOP^ DAMMAT;iFATHAT;iKASRAT;nP*
C^T?lIASTRE M&K.rLACE OF SAJDAHoOE_C V*SE?pUND M&K.qQUES_: M&KnRAIS]ROUND DOToYcEV*S]DAMMAn< &ROWHEAD.=%DOTo|uOUND]HIGH STOP %
FIL,D C^TRE+kSEMICOL:iHADDA=I[$nMEDI)$rIGN )AYHE ASS)LAMpMISRAfRADI )LAHOU ;HUpHMATULLAH )AYHEsSAFHAdLL)LAHOU )AYHE WASS)LAM+a
MVATeNAHe(DHI AMP*S;DjPOSTPOSI_: M^xTAKH)LUSnM)L DAMMAfF&SI YEHhTHAfHIGH A(dDOT,SS HEAD OF KHAHuF&SI YEHiOOTNOTE M&K*pJEEMeLA
M )EFhIGATURE )EF %LAM %YEHwQAF %LAM %)EF MAKSURA+eSAD %LAM %)EF MAKSURA+nMADDAeEEM (I_)$l[$sNO:=%KASRApQAFdROUND]Z*OmSADcE^dI
GN SAFHAkTAHcHREE DOTSkUPR< RECT;GUL& Z*OyWAWcORD )-JUZfN-NISFgR-RUBfS-SAJDAhTH-TH)ATHAmQIFdSAHbKTAfWAQFAkYEH=B&REE %TWO DOT
S |+eZAHb(jKASRAfLOW MEEMeNO: %KASRApSE^eWAWcORD IMA)AfSHMAAMhTASHEELqWAWdYEHiT&T OF RUB EL HIZBtUBSCRIPT )EFmKUN=|fI[$nMEDI)$
pP*SCRIPT )EF MOKHASSASzYMBOL DOT.f|hUB, V*_C) B& |zFOUR DOTS.f|pR(GeSM)L TAH.f|pTHREE DOTS.f|fPO(T(G DOWNW&DS.f|+iWO DOTS.f|f
V*_C)LY.f|zWASLA.sTAIL FRAGM^TlTWEEL=%FATHAT;.oOV*STRUCK HAMZAfWAWoTWO DOTS |+aHOUS;DS SEP&ATORs:E LOOP.f|k:E DOT.f|nTWO DOTS.
f|sRIP, DOT PUNCTUA_: M&K+aURN]DAMMA |sV*_C) TAILmOWEL? DOT |j(V*T]SM)L V.wSM)L V.yWAVY HAMZA |qZW&AKAYj-(DIC CUBE ROOTjD#dZ*O
kFOURTH ROOTlP* MIL,?kT^ THOUS;D?+gCbIESdM^I; ABBREVIA_: M&KqPOSTROPHEkCAPIT) ,TT* AYBdB^dC>bEHdOcD~ECHcHbTcFEHdGHADdIMdHOc(Id
JAbHEHeKEHbNdLIWNeM^dNOWdOHcPEHcIWReRAbEHdSEHcHAd_WNdOcVEWcOcXEHdYIaWNeZAbHErOMMAfDRAM?jEMPHASIS M&KmXCLAMA_: M&KqFULL STOPjHY
PH^gMODIFI* ,TT* ,FT H)F R(G+eQUES_: M&KnSM)L ,TT* AYBdB^dC>bEHdOcD~ECHcHbTcFEHdGHADdIMdHOc(IdJAbHEHeKEHbNdLIWNeM^dNOWdOHcPEHc
IWReRAbEHdSEHcHAd_WNdObURN]AYBkVEWcOcXEHdYI=%STROKEmWNeZAbHEjIGATURE ECH YIWNiM^ ECHd(IdNOWdXEHhVEW NOW+dROW PO(T(G DOWNW&DS T
H^ CURV(G ,FTW&DSjR<W&DS+hR<W&DS TH^ CURV(G DOWNW&DSjSOUTH WESTkUPW&DS+fUPW&DS TH^ NORTH WEST+hHEAD-SHAP]PO(T*w_CULAT]LORRYnS
T P)ETTEnSC^D(G NODElIA SYMBOLkS*_:hT*ISK=OP*ATORkMf:ISH]FACEmRAEAd:OMIC) SYMBOL FOR UR;US+cYMPTO_C)LY EQU) TOwTH,_C SHOElOM S
YMBOLkUB*G(EhSTR)?kTO RICKSHAWjMAT]TELL* MACH(EtOBI,jVEST; ABBREVIA_: M&Kr,TT* AaAaNbOcEaEcNbOcBEbHEdCEcDEbHEdEaEcFEcGEbGEcHEd
HEbMEdIaIcJEcKEc,cMEcNEbGEbVEcYEdNEcYEdOaOcPEcREcSEbHEbYEdSHEeTEbHEcTEdUaUcVEcXEbVEcYEdYEbYEdZEbHEqOCADOgXEdBABY=;GELfBOTT,gCH
ICKfSYMBOLjCK OF ^VELOPEl%,FTW&DS &ROW.+b-_LT]SHADOW]WHITE R<W&DS &ROW+nSL;T]SOUTH &ROW %HOOK]TAILjRIZ:T) TAIL+nPACEg:cTRI; CA
MELmDG*dM(T: RACQUET ;D SHUTT,COCK+fGELcGAGE CLAIMkUETTE BREADmL(ESE ADEG ADEGjC&IK PAMUNGKAHhR*^hSIKIkD#dZ*Ok,TT* AIK&AfK&A=T
EDUNGlRCHAIC JNYAlSYURA SASAKmBA=KEMB;GkCA=LACAhDA=MADUdURDA )PAPR;AjMAHAPR;AsEF SASAKhK&AfGA=GORAhH~IK&A=TEDUNGmJA=J*AhKA=MAH
APR;AkF SASAKiHOT SASAKkLA=,NGA=TEDUNGpM~NA=RAMBATiG~YAdOK&A=TEDUNGmPA=KAP)iRA=REPA=TEDUNGoSA=SAG~PAhTA=LA_KfMURDA MAHAPR;ApTA
WAgZIR SASAKkUK&A=TEDUNGmVE SASAKiW~Y~Z) SASAKqMUSIC) SYMBOL COMB((G B^DEf^DEPfG:GeJEGOG;hKEMPLI=%JEGOG;pUL=%JEGOG;tTEGEHpDA^G
d(GdNG=GEDEeSUR;Gk^GcUNGe(Gd:GdUNGe,FT-H;D CLOS]PLAKcUKlOP^ P;Gd(GdUNGtR<-H;D CLOS]TAKcUKkOP^ DAGcUG+iPAMADA=L;T;Gl^^GgN_=L;T;
GnSIGN BISAHfCECEKfR*EK;hSUR;GgULU C;DRAgRICEMoVOWEL? LA ,NGA=TEDUNGpPEPET=TEDUNGmRA REPA=TEDUNGoSUKU=ILUTjT)(G=REPA=TEDUNGlTE
DUNGmEDUNGgULU=S&ItW(DUlL OF Y&NiET SHOESiO:a-SPOK]AST*ISKsT BOLD SCRIPT XlX=%B)LOTfOLD CHECKfSCRIPT XnCHECKfL< XhSCRIPT XiXkS
CRIPT XiXgMUM COL:dMB((G M&K KOQND:hTUKW^_SvMAfFULL STOPj,TT* AbEEcFAAMAEfEEcOMcUcIbKAb^bTbUXdIbOaGHOMeVUUeP~UbYEEeLAbEEEEeIbO
QcUcMaAbBA~^dEEEEdNcIbObUcNAbDAAdGAbG~KWA^gIbJAEMdEEcUAEeSHAdTEEcUUdUaAEdYIdObPAbEEbUXdHASE-A FIRIeGBIEE F:iHEUAEGHEUAEgRAEjKA
F~QcETbUKEUTNDAjPOQdUOQeLAPAQeET KUTgOMMAEfUaAEPfMAEKEUPeMaBGBIEEgKP^eVEUXfNYIdSIdNSUAEfP PIEETiB;YIdQdEUNJOMNDEUQlGBASAf: NGG
EUAETkOMEUTdPUQgVEUA^GAMkNAA MF:gQcDA ,*AEWAj;GGEUAETl^cG;GUeG^dKUE MF:fNZEUMjIKAdJAMdKA&AEf(DIfSHAbIEEfTAP=MFAAeNTAAhOQP^gYET
cIaT M:GKEUAEQoZA MF:gUN MEUTjPA ,*AEWAjAMbRAEeMSHAEfSHAEfETc: MF: PIPAEMB~GBIEEqPA NJI PIPAEMB~GBIEEvUPdROMdSEUNYAMgH(DA PA N
JIkRAEeOQ NSHUT YUMmU^SHUEThMdISAd:JAMeQbTcUUdTEUA^dTEUW^iITA MF:iU MAEMBAhAEPfU YUQ NAEiNKNOWNhVEEfB FEEbUXeGHEUGH^bUAEMlKAMc
EUAEMdPUQdYEUXgIEEMdQdLA;AEeM NSHUT NYAMnETcOM NTEUMjMA=NJEUA^AgUQAhBA MAE,Eh&AEfEURIeIT MBAAKETkUOQeEUQbT NGGEETkFIYAQe: TEUA
EQk:_E^iNDU NJAAhGGAAMdEU MBUgUOQ=L&GEkK(DI MVOPkOMdS^cHUETf_EE SHEUOQlYAEMAEfI NTEUMjP&UMeEESHIfITcUNGAAMhSAKEUAEgET TUfHET N
JAQgUAEQTUiIEEdUEdTAAMdU MAEMGBIEEjNSIEEiVEUMeWUAETfYAFU ,*AEWAmEURAEiC BUNGeFUEdGBAYIeHAPbRAEgKA~^ FA_GUEhLAWfTbUKAQdMbSEUXdH
EUAEPjP&AQfUOP NKA&AEkTdLAMbPcIQcUcMA KEUA*IhNSIEEgEMBAdSIeBAA CABBAGE-TREEmPICKETiNYIeEEKEETfRAEdUMbXdIaRIE^fTcUAEMdEdGBASAQg
IEEdUAEeN;S;AQgQcDAMbPcEUA*EEfTdIDAdOMBUfGAQcG^cUaA^ NYAMiEETdMb:eKAQcUE MAEMBAkOMdJAEMcMcEEEEdUXdUEQeSAbEUA^fHAQdOMcUNbOT NGO
MjTA~^bUNGBAgU MBIThYIR MKP&AQ MEUNqZAbEUMfP^c(bRIE^hRUcSETF:eUXdHIQcUEQeUAETfTAASHAEgETbUTEUXgITA YUEfUAEPhVEUAEP^fXeW;GKUOQh
UPdYA~EUQdU MUOMAEhMbWOQhD FA~EUFEUAETjGHA~EUAEgKETbUAETMEUNhMbOT MBUAEiPdUaNbOMcQcWAETeYEEe,EEEdTbUAEPdMdIEEdOQcUMdMaA^JETf,*
IgBAA=SEV^iUOdEEEEdUNbTdFEUAEcTdIEEdOaNdGBEUNdIEEdOFUMg:IdUbVOPeNDAMcEEbUXd:dGGAAMaAEePcEUXdUOMdWA^fKAPcEUAEQdRIeIEEdUNcYEEfIb
JAPcEUAEMdTdIaEEdUEQeSHEEcUTdIEEPbTeUMdTEEbUMdUUdUbYAMcETcIbUEePAPcEEbUTAEfIPcUQbUTeRAEMd^ MUCHeOLDgIIdSAPbQcEUAEQfHEEbUAEcXdI
IcOQcUcOTcUAEcEbUdTAEcEEEEdUA^dNbTdIbOQcUaOTeWAPcUA^fYAEMMAEg^cUOMbPcWOQhE AbFAaQcEEcOMcU C)LeIbREMEDYhEaTeGBETbUXeHAAMAEfETbU
AEcNbXdOMeIbKETbUAEcXdIbObPEUXeUETcOPcTdLAAMcPbQcEUAEMfOMb:bTcQcUcMAaEaMcPbQcBEEbUMe^cFEUQeGBAb^eIaEEd:cUAEdVIdNAaEcDAA MY HOU
SEiSOFTNESSkPcIAQcQcUNdGAbEUREUTgGEEEEdUAEaTfUAESHAE NYAMlPbRAEfKAaAMIeEUAEMdXdUMbPdOPbQcUAEaTfJAEMLIfEE=EPOCHhUXeKOMdSHIEEdUE
bOPfTAPcUMdYI BETWE^hC,AV*kZAQcUQeObPA PEOP,fLUR)hAaMdEEMcUTbXdIaEEQcTdOa:dUaAEbQcEbMdRAEbQcEUXdIMGBAgSA~EEbTcHEUAEQfIQcOaQdOM
cUA^fTAAaQc^ NTEUMiMbQc^bUaAEQfOOaNcQcUAEcMaAEfVEEbUAEeOMdWEUXdUEbOdYAPcEUAEaTdMbXdIEEcTcOQ COV*fSWIMM(GlUA^dEQcNbQfF EEcFOMdK
Ab^bTcObP~UbYEEeLAbIbOQdMaAbBA~^dEEEEeOcNDAAdGG~KWA^gIbJAEMdUAEeSHAdTEEdUaAEdYIdPEEbUXdUAEeREEbNbUXdIEEcIcUcSAMBAeEUXdHIIcObUc
IbUUdTAAbEcETdUbVUEQeWAbUEdYAbOQkIbUAEcEdRAEcEEbNbUXdIEEcIcUcSAMBAeEUXdHEUXdIIcObUcIbUUdTAAbEc^bTcIcUbWAbUEdYAbOQcUQkNJAEMLIhQ
UES_: M&KnSEMICOL:nN;AdJOcKaNOTE %DOLL&?lEURO?jPOUND?kY^?uR CH&TfOF SOAPiB* PO,jSEB)LfKETaB)L ;D HOOPqSA VAH COMB((G HIGH T:E
f-LOW T:EnLOW T:Ef-MID T:EmMID T:EsFULL STOPj,TT* AbB~CEcDHIIdOcEaEbNNIeF~GAHcBUdHWAHeIbJOcKAbPAHeMBEdOaOcP~SEcTOcUaWUdVUcWAaD
DAfYE(dIEdZOrTaAK C:S:;T? HbNGr,TT* AbB~C~D~G~H~IbJ~K&O BAhL~MAaNDAIL(G H~N~SAmBAdNAbD~G~ORTH*N TAkYAdPAaKPAK WAjR~SAbIM)UNGU
N AbG~H~L~M~P~R~S~W~YAmOUTH*N TAlUbW~YAjP;GOLATf:G:;kSIGN TOMPIjYMBOL B(DU JUDULfNA METEKiP;GOLATh(&BORASxVOWEL? EaEcIbK&O IbO
gObPAKPAK EiU=FOR SIM)UNGUN SA+hHaTUBeT*YgEACH %UMBRELLAqM]ASC^D(G MUSIC) NOTESxDESC^D(G MUSIC) NOTESyE<H NOTESmSIXTE^TH NOTES
tNScR FACEfD]P*S:lT(G HE&TkV*eCAUSEfDb* MUGfT,eLaL=PEPP*gSYMBOLg%C;CELLA_: STROKEzHOP BELLkNG)I ABBREVIA_:?qNJIdU ,NGTH M&KoCU
RR^CY D^OM(ATOR SIXTE^tNUM*ATOR FOURe:E=,SS TH; THE D^OM(ATOR+dTHREEeWOwD#dZ*OkG;DA M&KkISSH&g,TT* AaAbIbUcB>dC>dDAbD>dHAdEbG>
dH~IaIcJ>dK>aNDA TAjL~M~NAbG~N~YAdObP>dRA=%LOW* DIAG:)oMIDD, DIAG:)wH~RAdS>cSAdT>cT>eUaUcVEDIC ;USV&AnOC)IC LaLcRaRkYAbYAkRUPE
E M&KeSIGNkS;DHI M&KkIGN ;USV&AhVAGRAHAiC;DRAB(DUlNUKTAfVIRAMAeS&GAmVOWEL? AAbIbUcEbIaIcObUaUcVOC)IC LaLcRaR+aT &ROW PO(T(G DO
WNW&DS TH^ NORTH EAST+pO BOXgZ^E R(G=%CIRC,wT SYMBOLhWE^fV*AGE BOXlHAIKSUKI D;DAe#dZ*OjOUB, D;DAmGAP FILL*-1b2mHUNDREDS UNI
T M&Ks,TT* AaAbIbUcB>dC>dDAbD>dHAdEbG>dH~IaIcJ>dK>dL~M~NAbG~N~YAdObP>dR~S>cSAdT>cT>eUaUcVAbOC)IC LbRaRkYAjNUMB* E<aYgFIFTYdVEd
ORTYdUReN(EaTYg:EdSEV^aTYgIXaTYfT^cHIRTYeREEeW^TYeOkSIGN ;USV&AhVAGRAHAiC;DRAB(DUlVIRAMAeS&GAmVOWEL? AAbIbUcEbIaIcObUaUcVOC)I
C LbRaRvWORD SEP&ATORxICYC,bISThG REV*SE SOLIDUSpSOLIDUSjK(IeL,D CAPgI&DShOHAZ&D?mRDbTHDAY CAKElS:dTCO(?j(G LIPjLACK BOW_EgC^T
RE WHITE ST&qHESS BISHOP=ROTAT]N(ETY DEGREESoTWO HUNDR]SEV^TY DEGREES+qEQUIHOPP*=ROTAT]N(ETY DEGREES+hK(G=ROTAT]N(ETY DEGREESo
TWO HUNDR]SEV^TY DEGREES+nN<=ROTAT]FORTY-FIVE DEGREESsN(ETY DEGREESo:E HUNDR]THIRTY-FIVE DEGREES+fTHREE HUNDR]FIFTE^ DEGREES+c
WO HUNDR]SEV^TY DEGREESpTW^TY-FIVE DEGREES+o-BISHOPgQUE^fROOKlPAWN=ROTAT]N(ETY DEGREESoTWO HUNDR]SEV^TY DEGREES+oQUE^=ROTAT]N(
ETY DEGREESoTWO HUNDR]SEV^TY DEGREES+pROOK=ROTAT]N(ETY DEGREESoTWO HUNDR]SEV^TY DEGREES+oTURN]BISHOPgK(GdN<gPAWNeQUE^fROOKqIR
C,=FOR RECORDk%DOWN &ROWkTWO WHITE DOTSoWHITE DOT R<+aLUB SUITiROSS : SHIELDoURV]DOWNW&DS ;D ,FTW&DS &ROWpR<W&DS &ROW+e,FTW&D
S ;D DOWNW&DS &ROWpUPW&DS &ROW+bR<W&DS ;D DOWNW&DS &ROWpUPW&DS &ROW+cUPW&DS ;D ,FTW&DS &ROWpR<W&DS &ROW+jDIAM:D=C^TREDhM(US WH
ITE Xn: CROSSiSUITe%DOWN &ROWwOWN PO(T(G BACKH;D (DEXy-PO(T(G DOUB, TRI;G,pISOSCE,S R< TRI;G,ySM)L TRI;G,oTRI;G,sW&DS EQUILA
T*) &ROWHEAD+eRAUGHTS K(GeM;kOP,ThFLAGcORETTEhOLD*eUR PO(T]ST&rH&D SHELL FLOPPY DISKvE&T=SUITiXAG:gORIZ:T) ELLIPSEqURGLASSjL&G
E CIRC,gSQU&ElEFT L;E M*GEkPO(T(G BACKH;D (DEXo(DEXp-PO(T(G DOUB, TRI;G,=%V*_C) B&+hISOSCE,S R< TRI;G,yPO(T*hSM)L TRI;G,oTRI;
G,sW&DS BUL,TgEQUILAT*) &ROWHEAD+eOW* ,FT TRI;G,nR< TRI;G,sZ^GEhMEDIUM DIAM:DgOWN-PO(T(G TRI;G,=C^TRED+e,FT-PO(T(G TRI;G,=C^TR
ED+dOZ^GEhR<-PO(T(G TRI;G,=C^TRED+fSM)L DIAM:DhLOZ^GEhSQU&ElQU&EgUP-PO(T(G TRI;G,=C^TRED+iO: LILITHlNIBdOCTAG:hP&),LOGRAMm^N;T
eTAG:hUSHP(hQUES_: M&K ORNAM^TwRECT;G,i< PO(T(G BACKH;D (DEXo(DEXp-PO(T(G DOUB, TRI;G,=%V*_C) B&+hISOSCE,S R< TRI;G,yP^TAG:hO(
T*hSM)L TRI;G,oTRI;G,=%DOUB, V*_C) B&+rW&DS &ROWaHEADjBUL,TgEQUILAT*) &ROWHEAD+fOSETTEhSAFETY SCISSORSoCISSORShHOGI PIECEkKUL
L ;D CROSSB:EStL<LY SM)L CIRC,gSQU&EuM)L DIAM:DhLOZ^GEhSQU&EfT&iIL(G FACElNOWM;gPADE SUITjQU&E=BUTT:gC^TREDhFOR STOPoT&dUN %RA
YSnTE,PH:Ei(Y DIAM:DhLOZ^GEhSQU&EkOUCHT:E TE,PH:EsRUCKeWO-WAY ,FT WAY TRAFFICyUNIV*S) RECYCL(G SYMBOLzP PO(T(G BACKH;D (DEXy-P
O(T(G DOUB, TRI;G,pISOSCE,S R< TRI;G,ySM)L TRI;G,oTRI;G,sP* ,FT TRI;G,nR< TRI;G,sW&DS EQUILAT*) &ROWHEAD+dV*_C) ELLIPSEhRECT;
G,pY SM)L DIAM:DhLOZ^GEhSQU&Es-FEATH*]NORTH EAST &ROWqR<W&DS &ROWqSOUTH EAST &ROW+a,TT* CAPIT) CbHbIbRbZtNK SYMBOLkOCK SEXT;T-
1a2a3a4a5b6c5a6c6c4a5a6c6c5a6c6c3a4a5a6c6c56c6c4a5a6c6c5a6c6c2a3a4a5a6c6c5a6c6c4a5a6d5a6c6c3a4a5a6c6c5a6c6c4a5a6c6c5a6c6mSSOMe
WFISHgUE BOOKeHE&TgB*RIESkO&cLD E< SPOK]AST*ISKvFIVE SPOK]AST*ISKuGREEK CROSSlS)_REgIX SPOK]AST*ISKtWHITE CIRC,gSQU&EpMaBcNEcO
KaM&K=TABSjScM*;GhPOMOFO F() ,TT* GbHbKbPbTo,TT* AaHbIaNNdMbNaGbNcUaNNeBaUcCaHcDbEaEbHbIbNaGbNcRcFbGaHbNbUbWcHbIaHbMbNNaNdRbUc
JaIcKaWcLaHcMbNaGaGcNcO=%DOT.pEbMbNGbNcObUcPbQbRbSaHcTbUaNNdVbXbZaHbIbYqTT, %POPP(G CORKuOM &C ;_CLOCKWISE &ROWxCURLY BRACKETn
H)F BLACK CIRC,m(TEGR)i,FT P&^THESISqR< P&^THESISw,FT CORN*fROPeH)F BRACKETrP&^THESISlR< CORN*fROPeH)F BRACKETsSQU&E BRACKET=O
V* TOP SQU&E BRACKET+mTORTOISE SHELL BRACKET+bUQUET=OF FLOW*SqW ;D &ROWkL OF HYGIEIAk%SPO:l(Ge_E=%,FT H)F BLACKpR< H)F BLACK+a
X DRAW(GS DOUB, DOWN ;D HORIZ:T)k,FTeR<oHORIZ:T)kUP ;D HORIZ:T)k,FTeR<mV*_C)=;D HORIZ:T)k,FTeR<xWN DOUB, ;D HORIZ:T) S(G,r,F
T S(G,lR< S(G,xHEAVY ;D HORIZ:T) L<q,FT L<fUP L<nR< L<fUP L<oUP HORIZ:T) L<+dL< ;D HORIZ:T) HEAVYq,FT HEAVYfUP HEAVYnR< HEAVYf
UP HEAVYoUP HORIZ:T) HEAVY+dS(G, ;D HORIZ:T) DOUB,r,FT DOUB,lR< DOUB,+cHEAVY DOUB, DASH HORIZ:T)kV*_C)sWN=;D HORIZ:T)k,FTeR<oH
ORIZ:T)k,FT=;D L< R<uQUADRUP, DASH HORIZ:T)kV*_C)xR<fTRIP, DASH HORIZ:T)kV*_C)uUP=;D HORIZ:T)k,FTd< DOWNkR<mV*_C)=;D HORIZ:T)
k,FTeR<y,FT DOWN HEAVY ;D R< UP L<+dHEAVY ;D R< DOWN L<kUP L<iV*_C) L<+eL< ;D R< DOWN HEAVYkUP HEAVYiV*_C) HEAVY+eUP HEAVY ;
D R< DOWN L<+h< &C DOWN ;D ,FTeR<oUP ;D ,FTeR<qDIAG:) CROSSfDIAM:DhMIDD, ,FT TO LOW* C^TRE=TO MIDD, R<+cUPP* C^TRE TO MID
D, R<=TO LOW* C^TRE++aR< TO LOW* C^TREmUPP* C^TRE TO MIDD, ,FT TO LOW* C^TRE++hUPP* C^TRE TO MIDD, ,FT=;D MIDD, R< TO LOW* C^T
RE+gTO LOW* C^TRE=TO MIDD, R<+kR<=;D MIDD, ,FT TO LOW* C^TRE+fTO LOW* C^TRE=TO MIDD, ,FT++b,FT TO LOW* R<tR< TO LOW* ,FT+hOU
B, DASH HORIZ:T)kV*_C)sWN=;D HORIZ:T)k,FTeR<oHORIZ:T)=%V*_C) STROKE+f,FT=;D HEAVY R<uQUADRUP, DASH HORIZ:T)kV*_C)xR<fTRIP, DAS
H HORIZ:T)kV*_C)uUP=;D HEAVY DOWNjORIZ:T)k,FTeR<mV*_C)=;D HORIZ:T)k,FTeR<yR< DOWN HEAVY ;D ,FT UP L<+cHEAVY ;D ,FT DOWN L<kU
P L<iV*_C) L<+dL< ;D ,FT DOWN HEAVYkUP HEAVYiV*_C) HEAVY+dUP HEAVY ;D ,FT DOWN L<+iUP DOUB, ;D HORIZ:T) S(G,r,FT S(G,lR< S(G,x
HEAVY ;D DOWN HORIZ:T) L<vHORIZ:T) L<q,FT DOWN L<kL<kR< DOWN L<kL<vL< ;D DOWN HORIZ:T) HEAVYvHORIZ:T) HEAVYq,FT DOWN HEAVYkHEA
VYkR< DOWN HEAVYkHEAVYvS(G, ;D HORIZ:T) DOUB,r,FT DOUB,lR< DOUB,+aV*_C) DOUB, ;D HORIZ:T) S(G,r,FT S(G,lR< S(G,xHEAVY ;D HORI
Z:T) L<q,FT L<kR< L<vL< ;D HORIZ:T) HEAVYq,FT HEAVYkR< HEAVYvS(G, ;D HORIZ:T) DOUB,r,FT DOUB,lR< DOUB,+q(G GLOVEkYaS SYMBOLkPH
cRAHMI D;DAe#dZ*OjOUB, D;DAm,TT* AaAbIbUcB>dC>dDAbD>dHAdEbG>dH~IaIcJ>dK>dLAbLAdM~NAbG~N~YAdOaLD TAMIL LLAbLAeNNNAeRRAdSHORT Eb
OrP>dR~S>cSAdT>cT>eUaUcVAbOC)IC LaLcRaRkYAjNUMB* E<aYgFIFTYdVEdORTYdUReJO(*gN(EaTYg:E=HUNDREDhTHOUS;DmSEV^aTYgIXaTYfT^cHIRTYeR
EEeW^TYeOkPUNCTUA_: CRESC^T B&mDOTbUB, DOTkL(EdOTUSrSIGN ;USV&AiC;DRAB(DUlJIHVAMULIYAlOLD TAMIL VIRAMAqUPADHM;IYAlVIS&GAmVIRAM
AfOWEL? AAbIbUcBHAT_PROLU AAoEbIaIcOaLD TAMIL SHORT EbOrUaUcVOC)IC LaLcRaRzIL, PATT*N BL;KfDOTS-1a2a3a4a5a6a7a8c8c7a8c8c6a7a8c
8c7a8c8c5a6a7a8c8c7a8c8c6a7a8c8c7a8c8c4a5a6a7a8c8c7a8c8c6a7a8c8c7a8c8c5a6a7a8c8c7a8c8c6a7a8c8c7a8c8c3a4a5a6a7a8c8c7a8c8c6a7a8c
8c7a8c8c5a6a7a8c8c7a8c8c6a7a8c8c7a8c8c4a5a6a7a8c8c7a8c8c6a7a8c8c7a8c8c5a6a7a8c8c7a8c8c6a7a8c8c7a8c8c2a3a4a5a6a7a8c8c7a8c8c6a7a
8c8c7a8c8c5a6a7a8c8c7a8c8c6a7a8c8c7a8c8c4a5a6a7a8c8c7a8c8c6a7a8c8c7a8c8c5a6a7a8c8c7a8c8c6a7a8c8c7a8c8c3a4a5a6a7a8c8c7a8c8c6a7a
8c8c7a8c8c5a6a7a8c8c7a8c8c6a7a8c8c7a8c8c4a5a6a7a8c8c7a8c8c6a7a8c8c7a8c8c5a6a7a8c8c7a8c8c6a7a8c8c7a8c8sNdEADbK P*MITT]H*EqST-FE
ED(GlVEdICKcDE %VEILlGE AT N<mEFCASEeSeOCCOLIfK^ B&dCIRC, %NORTHWEST &ROW+bHE&TjOMcWN HE&TkSbUBB, TEAeSfCKETeGa(ESE ^D OF SE
C_:o,TT* AbB~C~D~G~H~J~K~L~MAbPAdNAbGAbKAdR~YAbCAeP~R~S~T~V~YAjP)LAWAhVOWEL? AEcEbIbObUtHID ,TT* AbB~D~G~H~IbK~L~M~NAbGAdP~R~
S~T~UbW~YAjVOWEL? IbUqILD(G C:STRUC_:tL,T=OP*ATORlHORN=%SOUND WAVESvSEYEgRRITOfS=STOPfT ( SILHOUETTEoS ( SILHOUETTErTT*aFLYiYT
E ORD* M&KnZ;T(E MUSIC) SYMBOL AGOGI &GIbOT*IiGORGIbOT*IjMESIcTRIAgPOLI &GIeGORGIpNATRICHISMAk_K^OKYLISMAhMAjPESO EKF:I_K:kX
O NEOlLIcOD*MA &CHAI:iNEOjSTROFOI SYNDESMOS NEOnTELOUS ICHIMATOSsS=DIPLIfNEOlTHEMAhRG:bSYNTHET:lK_KO DIcG~KEcNIcP~VOUdZOkCHAMI
LIb:gOREVMA &CHAI:iNEOkROA KLIT:gSPATHIgZYGOSlDASEIAfI&G:eSTOLI APLI MEG)IfIKRIkDIPLIfTHESEOSoESIS APLI DYO DODEKATArDIGRAMMO
S EX DODEKATAvM:OGRAMMOS TESS*A DODEKATA+cTET&_MORI:mRIGRAMMOS OKTO DODEKATAv_MORI:qFTOGGOS OUkGORG:=P&ES_GM^: &IST*A ;OdKATOn
DEXIAzRAMMA GGjPLI=&CHAI:nYOdEKSTREPT:jLAFR:gN&XIS KAI FTHORA VOUuDOF::iPEG*MAhT*: &GOSYNTHET:nP&AK)ESMArXO EKF:I_K:pF;*OSIS D
IF:IASiM:OF:IASkTETRAF:IASuHTORA SKLIR: CHROMA VASIS+aTHORA &CHAI:=DEYT*OU ICHOUxDIAT:IKI DIcKEcN;AdI ;OdKATOhP~ZOm^&M:IOS ;_
F:IAuI YFESIS TET&_MORI:wM)AK: CHROMA DIF:IASiM:OF:IASzNAOS ICHOSj^;OgSKLIR: CHROMA SYNAFIgVASISmDIAT:: DI+aG^IKI DIESISgYFESI
SmORG: &CHAI:iNEO ;OdKATOiP&ES_GM^: &IST*AiDEXIAvSYNTHET:lTHMIK: N APLOUNgDIPLOUNtR:THISMATAmICHAD(gMIDI&G:hF::eTHORAb:jSAKI
A TELOUS ICHIMATOSv: &CHAI:iNEOiKATAVA TROMIK:jSMAgHIS_h^_MA &CHAI:iNEO ;OdKATOeMESOjTA=&CHAI:iNEO ;OdKATOeMESOrLASMA=;OdKATO
k:TEVMA=)LOlR:ISfUFISMAhRA_MA )LOdRCHAI:iNEOeTAdOKOUFISMAiYPORRO:nEMAS_hYLISMAh,IMMA DYO CHR::l^OS CHR:OUmIMISEOS CHR:OUpTES
S&: CHR::pRI: CHR::sMOIeYGISMAhM&TYRIA )LI DEYT*OS ICHOSoPROTOS ICHOSrDEYT*OS ICHOSo,GETOS ICHOSnPLAGIOS ICHOSfTET&TOS ICHOSvR
OTOS ICHOShV&YS ICHOSqTET&TOS ICHOSf,GETOS ICHOSvRIF:IASgTOS ICHOSmV&YS ICHOStIKR: IS:lN;AeOLIG: &CHAI:iNEOjM):fXEIA DIPLIfEK
F:I_K:lNEOeI &CHAI:oYR;ISMA &CHAI:iNEOnP&AK)ESMA &CHAI:iNEOkLI_KI=&CHAI:iNEOmICH:hELAST:=NEOkRISPOM^IjTASM~_bOKOUFISMAoIASMA &
CHAI:iNEOjSIFISTOLYGISMAhN=NEOfP&AK)ESMAlSYNAGMAmLIb:gRAPISMAgEVMAfSAXIMATAhEISMA=NEOjIM;SIS &SEOS=DISIMOUhTETRASIMOUjRISIMOUp
THESEOS=DISIMOUhTETRASIMOUjRISIMOUyTAVROS=APODEXIAoIGMAeRAGGISMATAlYNAGMA &CHAI:iMETA STAVROUmNEOiEVMAfRMAa_KIjTE,IAeSS*AfTRAP
LIhHEMA=APLOUNh_SMOS ESOcXOmS KAI APOTHESoITAe(AGMAgRIAbGORG:gPLIeOMIKOLYGISMAhN )LOdRCHAI:iNEOfP&AK)ESMAkSIFIST:jSYNAGMAoV&EI
A DIPLIfEKF:I_K:lNEOeI &CHAI:oTHYfXIR: KLASMAmYF^ ;OdKATOgSIS APLI DYO DODEKATArDIGRAMMOS EX DODEKATAvM:OGRAMMOS TESS*A DODEKA
TA+cTRIGRAMMOS OKTO DODEKATAv_MORI:rPOKRISIS=DIPLImRROIfSILI+fCACTUSeDA UNAfUCEUSg,ND&fL ME H;DkM*A=%FLASHoP(GfNaADI; SYLLABIC
S AaAaIbYcIaVILIK BiNbTHAPASC; MbSlYcBEAV* D^E LbRmIB,-CREE YlLACKFOOT AbEbIbKAbEbIbOcNAbEbIbOcObSbWaAbEbIbOmCaAaAaIcRRI* CHAb
EaEcIbObUdDEEbNE GEEfT) ShIbLAbEaEcIbObUcZAbEaEcIbObUdEEcGAa~EaEcHAbEaEcIbObUcIbObUbWAbUdHaEEcIbWAbEaEcIbObUdIaNI_) ZjJAbEaEcI
bJAbEaEcIbObUcObUbWAdKHAbEaEcIbObUcKaAbEaEcIbObUdLAbEaEcHAbEaEcIbObUcIbObUcMAbEaEcIbObUcNAbEaEcGbIbObUcPaAbEaEcIbObUcRAbEaEcIb
ObUcSAbEaEcHaAbEaEcIbObUcIbObUcTHAbEaEcIbObUcLAbEaEcHAbEaEcIbObUcIbObUcSAbEaEcIbObUcTAbEaEcIbObSAbEaEcIbObUcUdWAbEaEcIbObUcYAb
EaEcIbObUcZaAbEaEcIbObUjEbHI?hIaIcOaOcWAa~EbIaIcOaOeEaAST*N WiNcFaAaAaIdEbIaIbN) ACUTEfBOTTOM H)F R(GqDOUB, ACUTEfSHORT V*_
C) STROKES+bWN TACKjGRAVEfMIDD, DOTkPLUSeRAIS]DOTj< H)F R(GnNGeSHORT HORIZ:T) STROKEwM)L R(GkTOP H)F R(GsOaOcULL STOPiWAAeGLOT
T) STOPmHKbYPH^gIaIbNcKaAaAaIcYcEbIaIcOaOcWaAaAbYcEbIaIcOaOeLaAaAaIcYcEbHaAa~IaIcOaOdIaIcOaOcWAa~EbIaIcOaOeMaAaAaIcYcEaDI) LbR
hHbIaIcOaOaSE-CREE SKmWAa~EbIaIcOaOeNa-CREE THEbIaIkAaAaIcSKAPI CWAAeKWAAeMWAAeNWAAeS-WcCWAdKWaAdPWAdTWAdWAAeTWAAeWA~OOdYWAAk
T_LIK HAa~IaIcOaOdSHRAa~IaIcOaOmYcEbGaAaAaIcIcIaIcOaOdHbIaIcNGaAa~IaIcOaOeOaObYcUNAVIK HaAa~EbIaIcOaOgUT HiWAa~EbIaIcOaOeOaJIB
WAY CbKbMbNaWIaIcOaOePbSaHcTiNbObYcPaAaAaIcYcEbIaIcOaObYcWAa~EbIaIcOaObYeQaAaAaIcIcIaIcOaOdRa-CREE REbWEjAaAaIcYcEbIaIcOaOcWA
a~EEcIaIcOaOeSaAaAaIcYaISI HAbEbIbOaOdJIbUaUdMbSHAbEbIbOaOcWEeTHcYIiEbHaAaAbYcEbIaIcOaObYcWAa~EbIaIcOaObYeIaIcOaObUTH-SLAVEY K
AHcEHcIHcOHoYcPAbEbIbOcWaAa~EbIaIcOaOeTaAaAaIcYcEbHa-CREE THaAa~EbIaIcOaOkAa~EbIaIcOaOcWAa~EdIaIcLHAbEbIbOaOcWEeOaOcTAbEbHaAa~
EbIbOaOcWEdIbOcWAa~EbIaIcOaOdYAbEbIbOdWAaAbYcEaST-CREE CWAa~EbIaIcOaOeFWAAeKWAa~EbIaIcOaOeLaAa~EbOaOcWAa~EbIaIcOaOeMaWAa~EbIaI
cOaOeNWAa~EdPaWAa~EbIaIcOaOeRaAbEbIbObWAAeSHWAa~EbIaIcOaOeWAa~EbIaIcOaOeTHWAAeWAa~EbIaIcOaOeWAa~EbIaIcOaOdYaWAa~EbIaIcOaOk*N W
iIaIcOaOaDS-CREE F() THiTHaAbEbIbObWAa~EEcIaIcOaOqYa-CREE COOdKOOdLOOdMOOdNOOdOOcPOOcWAAeSOOdTOOdWbYOOjAaAaIcYcEbIaIcOaObYcWA
a~EbIaIcOaOuCEL=CH&ACT*jTAGeLA_: XjRdD,cYcN]FOODiOEdPITULUMgRICORNhR SLID(GiD FI, BOXi(DEX=DIVID*SqE OFdT=(S*_: PO(TsI; ,TT* A
a2cBbC-18c39eDa2cEa2cGa2cIaIcKa2cLaDa2dMaBa2b3b4dNaDbGbNcObPa2cQbRaRcSaHa2cSbTa2dTaTa2dUaUaUa2b3bUeXm:bUSEL HORSElP STREAM*j^T
RY SAWkRIAGE RETURNlOTeST,eT=FACE=%TE&S OF JOYmWRY SMI,vUCASI; )B;I; CITA_: M&Kn,TT* )TcORdBETdC&bYNdHAaTcIbOYdYAWbYeDATcY;dZA
YcYAYfEBbYNdFAMdGHEYSeIMdHEYTe(YAdRBcWNdJAYNdHOXeK&cIWdL;cYITeMAQdNOWCe:cP^cIWReQ&bYdRATdSEYKdHAaKcOYeTAScIWRdYAYeVEYZeXEYNeYA
YDdOWDeZ&LdHAbIL+b_:?lCHcEDI?fLLAfL_C CROSSkNT?fRE L(E SYMBOLmL(E LOW L(EiOV*L(ErRESeGJcHA(ScRcKMA AU M&KhD;DAe#dZ*OjOUB, D;DA
m,TT* A~BA~HAAeCA~HAAeDA~DA~HAAeHAAeEbGA~HAAeHAAdIbJA~HAAeKA~HAAeLA~HAAeMAAdNA~GAAdNAAdYAAePA~HAAeRAAdSAAdTA~HAAdTA~HAAfUbVAAd
WAAdYA~YAAlMAAYYAAhO M&KgQUES_: M&KnSEC_: M&KlIGN ;USV&AiC;DRAB(DUlVIS&GAmVIRAMAfOWEL? AaAbIbUcEaIcIaIcOaIcUaUrM C:S:;T? F() H
bMbNGiL~R~W~YArD#dZ*Ok,TT* AaIcBAbB~HAdCH>eDAbD~HAdEbF() CHcGbKbLbNaGcPbRbSScTbYhG>dH~IbJ>dK>dL~MAbUEdNAbGAbUEdHAbJ~UEdUEdObP>
cPAdR~SAbSAdT>dUbV~YAjPUNCTUA_: D;DAeOUB, D;DAmSPIR)gTRIP, D;DAyVOWEL? AAbIbUcEIcIaIcOaEcUaEpRACT* TABULA_:=SETd%JUS_FICA_:+cI
EjT %DOWNW&DS TR^DpUPW&DS TR^D=;D Y^?+jECK M&Kf* BO&D=FILLp*(G MEGAPH:EoSE WEDGEjQU*]FLAGlROKEE ,TT* AbDAbEbIbL~ObUbVcEbGAbEbI
bObUbVcHAbEbIbN~ObUbVcIbK~LAbEbIbObUbVcMAbEbIbObUbVcNAaHcEbIbObUbVcObQUAbEbIbObUbVdSaAbEbIbObUbVcTAbEbIbLAbEbIbObUbVcSAbEbIbOb
UbVdUbVbWAbEbIbObUbVcYAbEbIbObUbVjSM)L ,TT* AbDAbEbIbL~ObUbVcEbGAbEbIbObUbVcHAbEbIbN~ObUbVcIbK~LAbEbIbObUbVcMAbEbIbObUbVcNAaHc
EbIbObUbVcObQUAbEbIbObUbVdSaAbEbIbObUbVcTAbEbIbLAbEbIbObUbVcSAbEbIbObUbVdUbVbWAbEbIbObUbVcYAbEbIbObUbVuRIESdY BLOSSOMlSTNUTg
I RHOeCK^eLDaR^ CROSS(GoPMUNKfR:eOCOLATE B&kPS_CKShRASMI; ,TT* )EPHeY(eBETHeCUR,D WAWkD)ETHgGIMELfHEaTHeKAPHeLAMEDHgMEMdNUNdPE
cRESHeSAMEKHfH(dM)L )EPHlTAWdWAWdYODHeZAY(mNUMB* FOURe:E=HUNDREDlT^cHREEeW^TYeOtRISTMAS TREEmURCHf(EMAeRC, DIVID]BY HORIZ:
T) B& ;D TOP H)F DIVID]BY V*_C) B&++k%)L BUT UPP* ,FT QUADR;T BLACK+hHORIZ:T) B&o,FT H)F BLACKoOW* H)F BLACKqR< H)F BLACKqSM)
L CIRC, TO THE R<yUP*IMPOS]XoTWO HORIZ:T) STROKES TO THE R<+jUPP* H)F BLACKkR< QUADR;T BLACK+aV*_C) FILLtD ;_CLOCKWISE &ROWg-R
OTAT]DIVISI:?+iST*ISK OP*ATORrBOLD XfUL,TgC %OV*LAID BACKSLASHyCbDbROSS$EE=%FOUR DOTSjTWO DOTSuPOMMEEh(G L;ESoDASHd#dZ*OiVIS
I:?dLASHnOLL&? %OV*LAID BACKSLASH+hT OP*ATORmEQU)SgGREAT*-TH;mH;GUL CHIEUCH=AiIEUC=AhHIEUH=AhIEUNG=AbUhKHIEUKH=AiIYEOK=AiMIEU
M=AhNIEUN=AhPHIEUPH=AiIEUP=AhRIEUL=AhSIOS=AgTHIEUTH=AiIKEUT=AoEAVY WHITE R<W&DS &ROW+bORIZ:T) B& %NOTCHyUM; FIGUREmIDEOGRAPH A
CCEPTfDV;TAGEiLLI;CEhTT^_:jC^TREf:GRATULA_:mPYcRRECThE&THe<eNT*PRISEjXCEL,NTjFEM)Ef(;CI)hREcVEdOUReHAVEdIGHeITEMeK(D*G&T^lOTOe
LABOReEFTdOWdM)EdEDIC(EgT)eO:eNAMEd<dNEe:EdPR(TfQUES_:iRELIGI:gSOURCEfTd<fSCHOOLfECRETeV^eIXcOCIETYgPECI)gTOCKdUDYeUITAB,gNbP*
VISEjT^cHREEeWOdWAT*eOODnNFORMA_: SOURCErT)IC LAT( CAPIT) ,TT* CbR+dKATAK;A AbEbHAbEbIbObUcIbKAbEbIbObUcMAbEbIbObUcNAbEbIbObUc
ObRAbEbIbObUcSAbEbIbObUcTAbEbIbObUcUbWAbEbIbOcYAbObUkORE; CH&ACT* CHAMKOgJUEUIwLAT( CAPIT) ,TT* @bGbHbIbJbKbLbMbNbObPbQbRbSbTb
UbVbWbXbYbZqSM)L ,TT* @bGbHbIbJbKbLbMbNbObPbQbRbSbTbUbVbWbXbYbZtESS-TH;jM(USeUL_PLICA_:? %CIRCUMF,X ACC^T+qNUMB* E<E^dY : BLAC
K SQU&Ev,V^gFIFTE^dY=: BLACK SQU&EuORTY=E<fFIVEdOUReN(Ee: BLACK SQU&EnEdSEV^eIXdTHREEeWOhURTE^iN(ETE^iSEV^TE^dY : BLACK SQU&Ew
IXTE^dY : BLACK SQU&EvT^=: BLACK SQU&EsHIRTE^dY=E<fFIVEdOUReN(Ee: BLACK SQU&EnEdSEV^eIXdTHREEeWOjWELVEdNTY=E<fFIVEdOUReN(Ee: B
LACK SQU&EnEdSEV^eIXdTHREEeWOrOP^ C^TRE E< PO(T]ST&+eP&),Lh*P^DICUL&mLUSdOST) M&KlREV*SE SOLIDUSo(G OP*ATORnSQU&Eg_MESeRI;G,=D
OWNnV*_C) B&mWHITE BUL,TgST&jZcXbZ*O %SLASHtULA_: FUNC_:pMF,X ACC^TmS T^TjTYSCAPE=AT DUSKqJK COMPA_BILITY IDEOGRAPH-2F80!b@c1!
b@c2!b@c3!b@c4!b@c5!b@c6!b@c7!b@c8!b@c9!b@cA!b@cB!b@cC!b@cD!b@cE!b@cF!b@d90!b@c1!b@c2!b@c3!b@c4!b@c5!b@c6!b@c7!b@c8!b@c9!b@cA!
b@cB!b@cC!b@cD!b@cE!b@cF!b@dA0!b@c1!bAbBbCbDfF90!b@c1!b@c2!b@c3!b@c4!b@c5!b@c6!b@c7!b@c8!b@c9!b@cA!b@cB!b@cC!b@cD!b@cE!b@cF!b@
dA0!b@c1!b@c2!b@c3!b@c4!b@c5!b@c6!bAbBbCbDc7!b@c8!b@c9!b@cA!b@cB!b@cC!b@cD!+cRADIC) BAMBOOfLUEdOLT OF CLOTHlNEcXcRUSH :EdTWOj
C-SIMPLIFI]BIRDeC&TeDRAG:gEATcV^eFISHdLYcROGeGATEdOLDeHORSEf,AFd:GeS)TdEEcHELLeILKdPEECHgT;N],ATH*nOOTHeURT,gW(DqHOKEeITYcVIL
I;hLIFFdOTHESgOWdDEATHeIV(A_:jOGdEAT :EdTHREEeWOgWEcYEdFIREdOOTeGHOSTeRASS :EdTHREEeWOjH;DdEADbRT :EdTWOiORNeJ-SIMPLIFI]DRAG:g
EV^eTOOTHeURT,sADEeKNIFE :EdTWOjLAME FOURe:EdTHREEeWOh:G :EdTWOiMEATcSHdO:cRT&eTH*eUND :EdTWOjNET FOURe:EdTHREEeWOhOLDdPAW :Ed
TWOg*S:gRA(cMbPcEPEATgSE)cC:D :EdTHREEeWOjHEEPeILKcMPLIFI]H)F TREE TRUNKoORNeW)KdHEATfYELLOWqM)L :EdTWOiNAKEdOUT :EdTWOiPIRI
T :EdTWOjUNdTAB,eHREADfIG*eURT,gW)K :EdTWOgT* :EdTWOiEST :EdTWOqSTROKE BXGdDbHaGbPaWGdXWGdZaGbTbWaGcZaPbZaGfNbPaDbGbZcQbSaGbPb
TbWaGbZcZaWGcZdTaNcWGcXGmLAMSHELL MOBI, PH:EtPP* BO&Di(G H;DS?qSSIC) BUILD(GqE& SCRE^ SYMBOLr(K(G BE* MUGSjGLASSESnPBO&DhOCK F
ACE E< OCLOCKh-THIRTYl,V^ OCLOCKh-THIRTYnFIVE OCLOCKh-THIRTYkOUR OCLOCKh-THIRTYlN(E OCLOCKh-THIRTYl:E OCLOCKh-THIRTYkSEV^ OCLO
CKh-THIRTYlIX OCLOCKh-THIRTYkT^ OCLOCKh-THIRTYjHREE OCLOCKh-THIRTYlWELVE OCLOCKh-THIRTYlO OCLOCKh-THIRTYqWISE CLOS]CIRC, &ROW
s:TOUR (TEGR)qDOWNW&DS ;D UPW&DS OP^ CIRC, &ROWS+oGAPP]CIRC, &ROWt(TEGR)iOP^ CIRC, &ROWrR< ;D ,FT SEMICIRC, &ROWS+bW&DS ;D ,FT
W&DS OP^ CIRC, &ROWS=%CIRC,D :E OV*LAY++qTOP SEMICIRC, &ROWtRI;G,-HEAD]OP^ CIRC, &ROW+oSE UPdD BOOKe(T*SEC_: %S*IFSyLOCK %KEYn
MAILBOX %LOW*]FLAGmRAIS]FLAGySUBSET=OR EQU) TOqP*SET=OR EQU) TOuUMBRELLAhNI: %S*IFS=;D SMASH PRODUCT+nUD=%L<N(GjRA(eSNOWeTORNA
DOpWN FACEjOATcCKROACHfTAIL GLASSl:UTfFF(e(cLLISI: SYMBOLn:=EQU)SgSIGNiMB((G ACUTE ACC^T=|mT:E M&Kk-GRAVE-ACUTElMACR:lLMOST EQ
U) TO.f|uNNUITY SYMBOLm_CLOCKWISE &ROW.lR(G OV*LAYzST*ISK.f|oB(DU |kREVE=|g-MACR:kIDGE.f|mC;DRAB(DUjR:=|kEDILLAgIRCUMF,X ACC^
T=|wLOCKWISE &ROW.lR(G OV*LAYvOMMA.=R<l|jNJO((G MACR:=|wYRILLIC DASIA PNEUMATAoHUNDR]MILLI:S?nTHOUS;DS?wKAVYKAg,TT* AbBEbIG YU
ShCHEdDEbJ*VfEFbLbMbNbRbSa-TEfFITAeGHEdHAaRD?jIaEbO_FI]AbBIG YUShEkK~LITT, YUSkM:OGRAPH UKmOaMEGAfPEcSHAbCHAeOFT?jTEbSEdUaKRA(
I; IEmVEcYATc*UdIbUcZEbHEkMILLI:S?nP)AT)IZA_:mY*OKgOKRY_EhSILI PNEUMATAoT^ MILLI:S?qHOUS;D MILLI:S?vITLO=,FT H)FjR< H)FqVZMETo
DE,_: M&KlV;AG&I D#dZ*Ok,TT* AbK~N~P~R~UbVIjSIGN AVAGRAHAxIA*ESIS=|g-R(GnOT.=,FTeR<l|=,FTlT]ACUTE ACC^TmGRAVE ACC^TrUB, ACUT
E ACC^TmBREVE=|lCIRCUMF,X.qGRAVE ACC^Tm(V*T]BREVE=|uLOW L(EiMACR:=|mOP^ M&K |oV*L(EiP&^THESES.qLUS?.f|pR<W&DS &ROW |uNG |k_LD
E=,FT H)FjR< H)FqV*_C) L(E.f|kSTROKE OV*LAYyD CIRCUMF,X ACC^TxWN TACK |lW&DS &ROWp^CLOS(G CIRC,=BACKSLASHqDIAM:DhKEYCAPgSCRE^f
QU&EgUPW&D PO(T(G TRI;G,+hQU)S? |rF*MATAgOUR DOTS.pGLAGOLI_C ,TT* AZUdBIG YUSgUKYeCHRIVIgDJ*VIfOBROfFITAdRITUfGLAGOLIhH*UeIaN
I_) IZHElOTAT]BIG YUShSM)L YUSqZHEeKAKOeLJUDIJEhMYSLITEhNASHIf:UdPOKOJIgRITSIfSHAbTAdLOVOeM)L YUSjTSIcVRIDOgUKUdVEDEeYA_d*IbUc
STUeObUcZEMLJAfHIVETEyR;THA DIGIT FIVEdOURe:EdSIXdTHREEeWOdZ*Ok,TT* AbK~N~P~VIoPHEME JO(*mVE ACC^T=|mT:E M&Kk-ACUTE-GRAVElMAC
R:kEEK DI)Y_KA T:OSpKOR:IShMUSIC) P^TASEMEjTETRASEMEiRISEMEpP*ISPOM^IlYPOGEGRAMM^ItHOMOTHE_C.oOK.iRNe(F(ITYgV*T]BREVE=|jIDGE |
mDOUB, &CH.f|zS |iKATAK;A-HIRAG;A SEMI-VOIC]SOUND M&KwVOIC]SOUND M&K+hVYKA. ,FTeR<sLAT( ,TT* SM)L CAPIT) GbLbMbNbRwSM)L ,T
T* A=%DIA*ESISpEbLPHAeObVcBaETAeC=CEDILLAjDbEaSHcTHdFaLATT^]OP^ A.wGbHbIaNSUL& DbGbRbTjKbL=%DOUB, MIDD, _LDEz:G SgMbNbO=%DIA*E
SISjL< C^TR)IZA_: STROKE+iPbR=|fROTUNDAjSaCHWAfTaURN]W |oU=%DIA*ESISjL< C^TR)IZA_: STROKE+iVbW=|hXbZtEFT ;G,.f|kRROW.f|gHEAD.
f|pH)F R(G.f|nRPO:.nP&^THESIS. ,FTk| ,FTwR< &ROW.f|rTACK |lW&DS &ROW OV*LAYnH&PO: %B&B DOWNW&DS+kIGATURE ,FT H)F=|pR< H)F=|wH
T C^TR)IZA_: STROKE |+g:G DOUB, SOLIDUS OV*LAYwSOLIDUS OV*LAYoTROKE OV*LAYoV*_C) L(E OV*LAYyW L(EiMACR:=|f,FT H)F=|pR< H)F=|r-
ACUTEfBREVEfGRAVEl(US? |qNOT _LDE.oUMB*?.rOG:EKa.lLD P*MIC ,TT* ;cDOIdN^OEfSIIdZATAvP^ M&K |oV*L(EiP)AT)IZ]HOOK |uR^THESES.f|f
OV*LAYsLUS?.f|pRETROF,X HOOK |sV*SE SOLIDUS OV*LAYqD COMMA.t< &ROW.f|gHEAD.eND DOWN &ROWHEAD |uUP &ROWHEAD |w|pH)F R(G.f|nRP
O:.nP&^THESIS. R<l| R<xTACK |lW&DS H&PO: %B&B DOWNW&DS+kNG.f|fOV*LAYmSEAGULL |mHORT SOLIDUS OV*LAYoTROKE OV*LAYoV*_C) L(E OV*L
AY+aNAKE |kQU&E |eRACKETS.uTR:G C^TR)IZA_: STROKE |+hUSP^SI: M&KpTHREE DOTS.pILDE=|f,FT H)F |pOV*LAYhR< H)F |vRIP, ACUTE ACC^T
mDOTdUND*DOToURN]COMMA.sUP TACK.f|lW&DS &ROW |sR.hS.iV*_C) L(E.f|k_LDEoWIDE BRIDGE.m(V*T]BRIDGE |yGGLY L(E |rX.f|g-X |jZIGZAG.
f|tETcMAb*CI) ATcM(US?sPASSd,M^TgOSI_: SYMBOLoRESSI:jNFET_ B)LjOUND]FACElUS]FACEkGRU^T %DOT.vIC) TAP*kJUNC_:iSTRUC_:?eWORK*qT
A(S AS MEMB*gNORM) SUBGROUP=OR EQU) TO+e%L:G HORIZ:T) STROKEwOV*B&hV*_C) B& AT ^D OF HORIZ:T) STROKE+y(UOUS UND*L(E SYMBOLxOU
R (TEGR)mROL KNOBSfSEQU^CE (TRODUC*yV^I^CE STOREpOK]RICEhIEbNGfP_C CAPIT) ,TT* AKHMIMIC KHEImLFAeBOHAIRIC KHEInCROSS]SHEIkYPTO
GRAMMIC EIEdG;GIAgNIcSHEIsD)DAeEIcI)ECT-P )EFeHORIeKAPAeNImEIEdFEIcIcGAMMAdNGIAgHATEdORIeIAUDAfKAPAdHEIcIcSIdL-SHAP]HAkAULAfMI
cNIcOaLD COP_C A(dDJAdESHdG;GIAgHAaTcEIcORIeOOUdSHEIcIMAmNUBI; NGIcYIdSHIMAfWAUnOUdPIbSIdROcSAMPIeHEIcIMAeIMAdOUdTAUcHETHEgU~V
IDAeZATAsOMB((G NI.iSPIRITUS ASP*f,NISyEPACT D#jNUMB* E< HUNDREDiYgFIFTYdVE HUNDREDlORTYdUR HUNDREDmN(E HUNDREDiTYg:E HUNDREDl
SEV^ HUNDREDiTYgIX HUNDREDiTYfT^cHIRTYeREE HUNDREDmW^TYeO HUNDREDsTHOUS;DS M&KuFRAC_: :E H)FqULL STOPjMORPHOLOGIC) DIVID*vOL
D NUBI; DIRECT QUES_: M&KuFULL STOPj(DIRECT QUES_: M&KwV*SE DIVID*ySM)L ,TT* AKHMIMIC KHEImLFAeBOHAIRIC KHEInCROSS]SHEIkYPTOGR
AMMIC EIEdG;GIAgNIcSHEIsD)DAeEIcI)ECT-P )EFeHORIeKAPAeNImEIEdFEIcIcGAMMAdNGIAgHATEdORIeIAUDAfKAPAdHEIcIcSIdL-SHAP]HAkAULAfMIcN
IcOaLD COP_C A(dDJAdESHdG;GIAgHAaTcEIcORIeOOUdSHEIcIMAmNUBI; NGIcYIdSHIMAfWAUnOUdPIbSIdROcSAMPIeHEIcIMAeIMAdOUdTAUcHETHEgU~VID
AeZATAqYMBOL KAIcHI ROgMI ROfPI ROfSHIMA SIMAjTAUROShTAU ROrY,FT SYMBOLlR<?mR)cNISH V*SE DIVID*sRESP:DS TOmUCH ;D LAMPlNT*BORE
eS(Kg(G ROD T^S D#oUNIT D#yP, %HE&TpW=FACEhRaABcEDIT C&DiSC^T MO:lICKET=BAT ;D B)LsOCODI,gISS;TgSS M&KeOF J*US)EMjLORRA(ElPATT
Y %,FT CROSSB&nR< CROSSB&yOMMEE=%H)F-CIRC, |+e]FLAGSfNEGA_VE SQU&]LAT( CAPIT) ,TT* P+nSWORDSj(G L;ESlWNdUTCHdZEIRO?lY(G CAT FA
CEiFACEiST) B)LlSIcUBE ROOThCUMB*gNEIFORM NUM*IC? E< ASHdDISHeGESH2fSH&2fU=V&I;T$oV&I;T$ USSUa3xLAMITE FIFTYeORTYf:E THIRDjTW
O THIRDSsFIVE ASH=T^UiB;2=V&I;T$qURUeDISHeGESH2bUfSH&2bUeIXTHS DISHlU=V&I;T$sOUR ASH=T^UiB;2=V&I;T$qURUeDISHeGESH2bUfSH&2bUfU=
V&I;T$oV&I;T$ LIMMU=AbBc4yNIGIDAESHdM(hNE ASHdDISHeGESH2fSH&2fU=V&I;T$oV&I;T$ ILIMMU=~3b4zOLD ASSYRI; :E QU&T*hSIXTHvNE B;2dUR
UeE<H ASHjSHE3fGESH2bUfH)F GURiQU&T* ASHdGURlSH&UfTHIRD DISHeV&I;T$ AySEV^ ASHdDISHeGESH2fSH&2fU=V&I;T$oV&I;T$ IM( AbBc3xH&2 _
MES G) PLUS DISHeM(xIX ASH=T^UiDISHeGESH2fSH&2fU=V&I;T$oV&I;T$ ASH9vTHREE ASH=T^UiB;2dURU=V&I;T$rDISHeGESH2bUfSH&2=V&I;T$oU=V&
I;T$sV&I;T$ ESH16c21xWO ASH=T^UiB;2dURUeESHE3fGESH2bUfSH&2bUfTHIRDS DISHeV&I;T$ A+mPUNCTUA_:? DIAG:) COL:fQUADCOL:jTRICOL:rOL
D ASSYRI; WORD DIVID*zV*_C) COL:+fSIGN A=_MES AbBADdG;2 T^UjH~IGIdLAG& GUNUkMUSHeSAGk2bB=GUNUe_MES ASH2eDUN3 GUNUjG)bN2 T^UjH~
IGI GUNUhM(eLAGABfNUN=T^UiSHESHdU2eU PLUS U PLUS Uw2=_MES AbB)AGfG;2 T^UjME PLUS ^kSHA3eTAK4nD=_MES ESH2mK=_MES *(2fSHITA PLU
S GISHxL=_MES )cDIM2eGISHeH~KAD3dIcSHEdUSHk;cEPHeM&=_MES KUGdSHEnN=OV* ;hPLUS NAGA OPPOS(G ; PLUS NAGAvSQU&EDrTHREE _MESmSHEe
P(dRAD=_MES KURmKABeS)2dH=KABA T^UjOV* ASH OV* ASH=CROSS(G ASH OV* ASH OV* ASH+nTUG2 OV* TUG2 TUG2 OV* TUG2 PAP+qZIDA T^Uk2bGA
BgBAaD=_MES DISH T^UrG3cH&2=_MES AB2dNIcZAnL=OV* B)jAGdRaA2eI=_MES AbG&dIGI GUNUqU=CROSS(G BUlOV* BU ABc_MES NA2jUNlLUG=OV* BU
LUGoRa2eDA=_MES TAK4lG=KISIM5 _MES A PLUS MASHkM&eB)AGeIcGA=PLUS MASHlIaR2dUDdH~IR=PLUS LUkKAKdLAbU=PLUS MASH2lMdNEcPAP PLUS P
APmSIcTAK4eU2 PLUS GIR2eMASHlSHq_MES KURk3cMbRaA3b4eIaBbM=_MES IGIdSHEdU U Um2=_MES UDlN=KASK) U GUNU DISHuSH=PLUS SHUmU=GUNUe
OV* DUhSHESHIGiB=_MES ESH2eSHEk2cG=_MES ;SHEeSH=AT ,FTlD(cUNd*(2fGAbIaR2 GUNUhSHeHAbIcIGI GUNUiKASK)fURbSHU2=PLUS KASK)sLAK-02
0fM=_MES KURmUH PLUS GISHnMASHdEScIcNIcPIcSHEcI GUNUoUDdHbNa3=GUNU=GUNUl4cR2eE=OV* E NUN OV* NUNt_MES PAPk2=_MES A PLUS HA PLU
S DArG&dKURdMIcPAPdS)cHEdUjD(dGIRdLbN=CROSS(G ^lOPPOS(G ^lSQU&EDh_MES G;2=T^UjMEkR^c(2=XgSH2=CROSS(G ESH2rZ^=SHESHIG _MES ASHd
HIcIGI GUNUiLAaLdMEaSdSUq_MES A=PLUS L)=_MES L)tNcBADdDUN3 GUNU=GUNUoGUDdHA=GUNUhIGI GUNUiKASK)=SQU&EDnU3dLAaL _MES L)mIbUcSHE
cUcU2bDnGA=GUNUf2=OV* GA2i_MES A PLUS DA PLUS HAkH~IGIjB2 T^U PLUS TABqN=PLUS KAK PLUS ArSHa2=PLUS G)nBADbH&2eR PLUS RAkUR=PLU
S RAlDAbIaM GUNUe_MES SHEmUBbG _MES IGI GUNUiKASK)qEL=PLUS LAjN=_MES G;2 T^UrR^eGAaN2 T^UhR=PLUS DIcNEkIa4=PLUS AiR2 PLUS SUmH
A PLUS AbLU PLUS ESH2sL=PLUS LAkI PLUS LIjUB2eIGI GUNUhSH PLUS HU PLUS ASHuKAKbSK)fID=PLUS L)lU3 PLUS ;jSHU2 PLUS KASK)sLAaM=_
MES KURmUHdME PLUS ^jIbUSHeNE=PLUS E2cGIjUN=OV* NUNmP~S)bRcHE=PLUS TURkIDbMdUMdTAK4eUaD=PLUS DUkZIZ2mBA=CROSS(G GABAnROTAT]N(E
TY DEGREESzD=OV* GAD G& OV* G&xL=GAD OV* GAD G& OV* G&+aAMdMbNa2=CROSS(G G;2nOV* G;2jT^UhRa3cSH;fE22cSHT(=_MES KURdUoI=CROSS(
G GIl_MES EbUi4=CROSS(G GI4mOV* GI4kDIMdGbR2=GUNUg3=_MES A PLUS IGIkG;2 T^UjIGIdLU PLUS IGIlPAlS)cH=CROSS(G GISHnT^UdIMES BADd
GISH CROSS(G GISHsTAK4oU=CROSS(G GUm2=GUNUe_MES IGI GUNUiKAK=_MES IGI GUNUsNUNdS) PLUS TUG2vD=OV* GUD LUG)oPLUS GISH _MES TAK4
u_MES A PLUS KURkKURlLbM=_MES SHElRa7bUNbSHgHA=GUNUeT^U=GUNUkLcI=_MES ASH=OV* HI _MES ASHs2eBADdDISHeGADdK(dNUNdSHEdUjUaB2=_ME
S ;cH)dKASK)gLISHeUDlL2cSHeI=~BbDIM=OV* IDIM BURdSQU&EDvGaI=DIBdGUNUeOV* IGI SHIR OV* SHIR UD OV* UD+iRIfL=_MES G;2 T^Uq2cM=CR
OSS(G IMlOPPOS(G IMlSQU&EDh_MES TAK4l(dNbRbSHdKA=_MES AaD=PLUS KU3kNSHEeSH2b3eBADbLAGdRcIbUc*(2eSH2eGAaLbN2 T^UhR=PLUS SHA3 PL
US AtIaR2cSH=CROSS(G GISHnPLUS S&mUaDbR7eHI _MES ASH2nIGIcMcKAaKcIaDdLIbUaMdME=PLUS DUcGIcTEjI=PLUS NUNUZnNEbUNdPAbIcRUcSAaRcH
AbEbIDcUaLdIGcUHURfT&cUcU=U Ue2bDbMUM _MES PAmRa2cSHdZIj2=CROSS(G KA2oBbD2b3b4b5=OV* KAD5mK=_MES IGI GUNUqL=CROSS(G K)m_MES BA
DlM2b4cP ELAMITEjSK)=LAGAB _MES U OV* LAGAB _MES U+gOV* KASK) LAGAB _MES U OV* LAGAB _MES U+yESH2eI=_MES BADdUaDjDbNbS)cHbIM5=
OV* KISIM5rU=OV* HI _MES ASH2 KU OV* HI _MES ASH2+p3b4=V&I;T$o7bL=GUNUgNbR=OPPOS(G KURoSHU2fWU318gLAaGAB=SQU&EDh_MES A=PLUS D
A PLUS HAkG&dL)jLbNbSH ZIDA T^UnBADcIcD&d^cGAaRcIbUD=PLUS GUDmHAaLcI _MES NUNmIGI GUNUhM=PLUS H~LUkKIaNcU3bL=PLUS HI PLUS AsLA
GABeISHdUaLdME=PLUS ^jUSHeNEcSHE PLUS SUMkITA PLUS GISH PLUS *(2kT^UsU2=PLUS SHU2nUMdTAGbK4dE PLUS A PLUS SU PLUS NAzU=PLUS Ab
U PLUS Uo2 PLUS ASHkDbSHdZU OV* ZUsR=GUNU=OV* LAG& GUNU SHEy_MES SHE=PLUS SUMwHSHUeK-003c21b5c30c50b1c62c79 OV* LAK-079 GUNUu8
0b1 OV* LAK-081p92d130c42d210b9c20b5b8c38c65b6d343b7b8c83b4c90d441b9=_MES GUcIGIdPAP PLUS LU3dPAP PLUS LU3vU2 PLUS BAt50b7c70c
83c90b2b3b5d550d608c17=_MES ASHdBADdDUN3 GUNU GUNUoKU3dL~T&cEcU2bDbRUDAo36c48=_MES DUBdG~IGI=GUNUiNIcPAP PLUS PAP PLUS LU3vSHE
SH PLUS KInUDbRUDAp724c49fL=_MES L)lM=_MES KUR=PLUS RUuIaLbMMU2eSHdU=_MES BADk2=CROSS(G LU2mGUNU _MES ASHoOPPOS(G LU2mSHESHI
G=_MES BADqQU&EDhT^UdIMES )cBADdDISHeESH2=PLUS L)iT^UjG;2 T^UjH)cI _MES BADmIMcKAD2b3=PLUS ASHmIcLA PLUS ASHjGABfME PLUS ^kNEb
UcPAP=PLUS PAP PLUS LU3vSHUcI PLUS ASHjK2 PLUS BUmTAK4dUG2m3bG)=OPPOS(G LUG)nV* LUG)kSHESHIGlHbLbM=OV* LUM=G& OV* G&zMA=GUNUe_
MES TAK4l2bHbRbSHa2eEaSaHdI=PLUS ZA7jNcU=OV* MUiG=GUNUgNSUBeRGU2eSH=CROSS(G MUSHnOV* MUSH=_MES A PLUS NAjG~KAKt_MES AbKURdZAj
3=GUNUe_MES A=PLUS DIjDIcZAoNAa2b4bGA=(V*TEDiOPPOS(G NAGAn_MES SHU T^UpRdM=NU_LLUi2dE=SHESHIGh_MES AbUDkI=_MES Ei2bM=_MES G;
2 T^UhR PLUS G;2 T^U+aNa9bDA2=_MES ;bSH=PLUS ASHmB)dDIM GUNUiGIaSHdUDbLdHIcKESH2fLAK-050hMASHdE PLUS G;2 T^UrNEbUNdPAP PLUS PA
PmSHE=PLUS A ;dSH=PLUS ASHvU=PLUS Uh2 PLUS ASHkRUDAeSHoSAGeUa11=OV* NU11 BUR OV* BURwROTAT]N(ETY DEGREESwT^UhN=CROSS(G NUN=LA
G& OV* LAG&+dLAG& _MES G&dMASHeS)=OV* NUN LAG& _MES S)+cUSHpOV* NUNiT^UfUZ=AB2 _MES ASHGABgBIcDUGdGUDdIGI GUNUiKAD3eL~NEcSILA3
fU2mKISIM5 _MES BI=UxPAaDbNbPcESH2=AST*ISKnI=CROSS(G PIl_MES AaBcBIbUcEbIaBcUa2jR2bIG=OPPOS(G PIRIGo_MES K)dUDcZAoRAaBcIbUcSAa
G=GUNU=_MES HAnNU_LLUhOV* SAGi_MES AbDUaBd^cH~IGI GUNUiKAKcURdLUMdMIcNUNdS)cHE AT ,FTjIDeTABbK4eU2bBbMbRbSHlL=LAGAB _MES ASH2s
NGA2eRcHAa3=_MES AbBADdGISHeNEcSHU2eTURdU=PLUS Aq6=T^UgB6cR2dE=HUcOV* SHE=GAD OV* GAD G& OV* G&zTAB OV* TAB G& OV* G&+iPLUS HU
B2eNAM2eS&jG9cNbSHa2bLAMgID=_MES AbIMkM=_MES AbB)cULUGfD(dG&dIGI=GUNUiKUSHU2gLULdMUGdS)lNIGdR=OV* SHIR BUR OV* BURwT^UgTAdU=O
V* (V*T]SHUs2=PLUS DUG _MES NImE2 _MES ;sBURfI=GUNUe_MES TAK4lGa4=OV* SIG4 SHU2rK2cLA3eU=OV* SUiDa2cHURdMaASHeRa9eTA=AST*ISKiG
UNUe_MES HIcMIjB=OV* TAB NI OV* NI DISH OV* DISH+iSQU&EDjG=_MES BIcGUDdSHEbUdTUG2eUDkK4=PLUS SAGlRcE=GUNUgI=T^Uf2bLbR=OV* _R=G
AD OV* GAD G& OV* G&+i_MES TAK4nUaG2cKbM=_MES G;2 T^UjTHREE DISHsR=OV* TUR ZA OV* ZAxU=GUDdOV* U PA OV* PA G& OV* G&xSUR OV* S
URmU REV*S]OV* U REV*SED+hU=Ue2bBbD=GUNUeKUSHU2gSHESHIG=_MES BADr_MES BADdMIcU PLUS U PLUS U=GUNU+bUGdM=_MES LAGABfME=PLUS DAk
SHA3eUiB(dUM=_MES KASK)gPAmN=GUNUgR=CROSS(G URlSHESHIGi2=(V*TEDi_MES A PLUS H~NAiLcH~NUNdU2=PLUS ASHdBIjDk4bIa3cU=_MES AaSHGAB
gB&dD&A3eUNdGAaLbN2 T^UhRcUcH~IGIcMbSHdKIcLAK-668gU3bMdM(dP~SHEcIG4eTUcU PLUS GUDjDbRUDAmDA=_MES UmSH=_MES AbKUaRdTAK4l2bUMXdX
dTUKIeZ3=_MES KASK)oUdZA=SQU&]_MES KURrT^Uf7bGbMXdE2cI=OV* ZIi3bB=KABA T^UlGbZ2dU=OV* ZU PLUS S&r5=_MES AbTHREE DISH T^UxBURdM
qP : BLACK SQU&Ep%STRAWlCAKEeIDOeRL(G ST:EjY BRACKET EXT^SI:rLOGIC) ;DdORiOPhR^CY EXCH;GEiSIGNjY ;D RICElV]STEM P&AGRAPH? ORNA
M^T+hST&DdOMSfT OF MEATkYCL:EfL(DRICITYkPRIOT SYLLAB, AbEbIbJAbOcKAbEbIbObUcLAbEbIbObUcMAbEbIbObUcNAbEbIbObUcObPAbEbIbObUcRAbE
bIbObUcSAbEbIbObUcTAbEbIbObUcUbWAbEbIbOcXAbEcZAbOpO-M(O;? CM001b2b4b5b6b7b8b9c10b1b2aBc3b5b7b9c21b3b4b5b6b7b8b9c30b3b4b5b6b7b8
b9c40b1b4b6b7b9c50b1b2b3b4b5b6b8b9c60b1b2b3b4b6b7b8b9c70b1b2b3b4b5aBc6b8b9c8!c90b1b2b4b5b6b7b8b9d100b1b2b3b4b5b7b8b9c10b2b4d30
1b2vRILLIC CAPIT) ,TT* A=%BREVEfDIA*ESISpBKHASI; CHE=%DESC^D*sDZEdHAl,UT KAiB&R]O=%DIA*ESISvSHKIR KAjEbIG YUSfNOCUL& Ok,ND]YUS
kROAD OMEGAkYELORUSSI;-UKRA(I; IyCCHEdHE=%DESC^D*iIA*ESISjV*_C) STROKExLOS]LITT, YUSqROSS]OjDCHEdEbJEaRVeOUB, M:OCUL& OlOhWEcZ
EaLOdHEcWEcZEbHEfE=%DIA*ESISpFbL=%DESC^D*jHOOKeMIDD, HOOKlTAILlM=%TAILlN=%DESC^D*jHOOKe,FT HOOKjMIDD, HOOKlTAILlR=%_CKlS=%DES
C^D*rFITAeGHE=%DESC^D*jMIDD, HOOKlSTROKE=;D HOOKpUPTURNoJEdHA=%DESC^D*jHOOKeSTROKEmRD?iWEdI=%DIA*ESISjGRAVEfMACR:mE=%BREVEfGRA
VEmOaTAbIFI]AbBIG YUShCLOS]LITT, YUSrEbLITT, YUSkYATlZHITSA=%DOUB, GRAVE ACC^T+gJEcKA=%DESC^D*jHOOKeSTROKEgV*_C) STROKEwHAKASS
I; CHEnJEcOMI DEbJEcZJEeLJEdNJEdSJEdTJEdZJEgPPAeSIdLH~ITT, YUSjJEdM:OCUL& OhGRAPH UKmNEUTR) Y*kJEdO=%DIA*ESISpMEGA=%_TLOpTcP
E=%DESC^D*jMIDD, HOOKsSIdQ~REV*S]DZEdTSEdYUcZEkH~OUND OMEGAlSCHWA=%DIA*ESIStEMISOFT?mHAbCHAdHA=%DESC^D*rORT I=%TAILlUfWEdOFT D
EcELbMcSIGNiTRA< U=%STROKEwTCHEdE=%DESC^D*jMIDD, HOOKsSEbHEcSEcWEdWEdU=%DIA*ESISiOUB, ACUTEmMACR:mKaRA(I; IEmVEcWEcYAaEbTc*U=%
BACK Y*iDIA*ESISsIbNbUcZE=%DESC^D*iIA*ESISpMLYAfHE=%BREVEfDESC^D*iIA*ESISqWEkIGATURE A IEe^ GHEgTE TSExKAVYKAg,TT* MUL_OCUL& O
nP)OCHKAiSM)L CAPIT) ELxPAY*OKhSM)L ,TT* A=%BREVEfDIA*ESISpBKHASI; CHE=%DESC^D*sDZEdHAl,UT KAiB&R]O=%DIA*ESISvSHKIR KAjEbIG YU
SfNOCUL& Ok,ND]YUSkROAD OMEGAkYELORUSSI;-UKRA(I; IyCCHEdHE=%DESC^D*iIA*ESISjV*_C) STROKExLOS]LITT, YUSqROSS]OjDCHEdEbJEaRVeOU
B, M:OCUL& OlOhWEcZEaLOdHEcWEcZEbHEfE=%DIA*ESISpFbL=%DESC^D*jHOOKeMIDD, HOOKlTAILlM=%TAILlN=%DESC^D*jHOOKe,FT HOOKjMIDD, HOOKl
TAILlR=%_CKlS=%DESC^D*rFITAeGHE=%DESC^D*jMIDD, HOOKlSTROKE=;D HOOKpUPTURNoJEdHA=%DESC^D*jHOOKeSTROKEmRD?iWEdI=%DIA*ESISjGRAVEf
MACR:mE=%BREVEfGRAVEmOaTAbIFI]AbBIG YUShCLOS]LITT, YUSrEbLITT, YUSkYATlZHITSA=%DOUB, GRAVE ACC^T+gJEcKA=%DESC^D*jHOOKeSTROKEg
V*_C) STROKEwHAKASSI; CHEnJEcOMI DEbJEcZJEeLJEdNJEdSJEdTJEdZJEgPPAeSIdLH~ITT, YUSjJEc:G-,GG]DEoM:OCUL& OhGRAPH UKmN&ROW OhEUT
R) Y*kJEdO=%DIA*ESISpMEGA=%_TLOpTcP)OCHKAhE=%DESC^D*jMIDD, HOOKsSIdQ~REV*S]DZEdTSEdYUcZEkH~OUND OMEGAg]VEkSCHWA=%DIA*ESIStEMIS
OFT?mHAbCHAdHA=%DESC^D*rORT I=%TAILlUfWEdOFT DEcELbMcSIGNiTRA< U=%STROKEwT)L H&D?jTEcYAThCHEdE=%DESC^D*jMIDD, HOOKsHREE-,GG]TE
oSEbHEcSEcWEdWEdU=%DIA*ESISiOUB, ACUTEmMACR:mKaRA(I; IElNB,ND]UKmVEcWEbIDE EShYAaEbTc*U=%BACK Y*iDIA*ESISsIbNbUcZE=%DESC^D*iI
A*ESISpMLYAfHE=%BREVEfDESC^D*iIA*ESISqWEkIGATURE A IEe^ GHEgTE TSEvTHOUS;DS?xDAGG*=KNIFEf%,FT GU&DkR< GU&Dv,T SYMBOLkNC*dGOdR
K SHADEeUNGLASSESnSH SYMBOLg%,FT UPTURNr]LOW L(EiOV*L(EiTRI;G,-HEAD]R<W&DS &ROW+lTA L(K ESCAPEpC1b2b3b4bScEAF P*S:jCIDUOUS TRE
EkM) EXP:^T SYMBOLpSEP&ATOR KEY SYMBOLzREASE F:T SIZE SYMBOLx*cGREE CELSIUShFAHR^HEITkSIGNjLaETEdIV*Y TRUCKlTA EQU) TOmN_STR
Y SYMBOL L< DOWN ;D HORIZ:T)=%CIRC,gTRI;G,iWAVE+dUP ;D HORIZ:T)=%CIRC,gTRI;G,iWAVE+bV*_C) ;D BOTTOM ,FTeR<mTOP ,FTeR<jWAVEi%CI
RC,gTRI;G,+rP&TM^T STOREoRELICT HOUSE BUILD(GvSC^D(G NODEm*ET CAPIT) ,TT* AYcBEEdCHEEeDEEdEFbLbMbNaGcRbSaHcTHcWcGAYdHbJEEdKAYd
L:G AaHcEbIbOaOhOIbWcPEEdSHORT AaHcEbIbOaOiTEEcHEEeVEEdWUcYEEdZEEcHEEtSM)L ,TT* AYcBEEdCHEEeDEEdEFbLbMbNaGcRbSaHcTHcWcGAYdHbJE
EdKAYdL:G AaHcEbIbOaOhOIbWcPEEdSHORT AaHcEbIbOaOiTEEcHEEeVEEdWUcYEEdZEEcHEEuT=ISL;DkKTOP COMPUT*iW(DOWmV;AG&I ABBREVIA_:?qCUT
E ACC^TmC&ETfD;DAe#dZ*OjOUB, D;DAmGAP FILL*jRAVE ACC^TmHEADSTROKEkJA( OMh,TT* AaAbIbUbWbYcBAbB~HAdCAaNDRA AbEbOhHAdDAbDAbD>dHA
dHAdEbF~GAbG~H>dLOTT) STOPmHAbEAVY YAiIaIcJ>cJAdK>bHAeLAbLAbLAeMAaRW&I DDAlNAbG~NAbNAdYAdOaEbOEdP>dQ~R>cRAdS>bORT AbEbOgSAdT>c
T>eUaEbUaEdVAbOC)IC LaLcRaRkYAbYAdZ>kOMcSIGN ;USV&AhVAGRAHAiC;DRAB(DU=AVAGRAHAiTHREEeWOdVIRAMAsDOUB, C;DRAB(DU VIRAMAzHIGH SPA
C(G DOTq(V*T]C;DRAB(DUuNUKTAfPUSHPIKAiSIDDHAMgPAC(G C;DRAB(DUtVIRAMAeS&GAlTRESS? ;UDATTAiUDATTAsVOWEL? AAbIbUbWbYcC;DRA EbL:
G EgOiEbIaIcOaEbOEdPRISHTHAMATRA EpSHORT EbOhUaEbUaEdVOC)IC LaLcRaR+dICE C:TROL FOURe:EdSTR(GgTHREEeWOrIA*ESISgMET*?j:D OP*ATO
RiSHAPE %A DOT (SIDExT&GETg%BOTTOM H)F BLACKr,FT H)F BLACKpR< H)F BLACKqTOP H)F BLACKzE FACE-1b2b3b4b5b6hSEL LOCOMO_VEpFF*^C
E BETWE^qGIT E<=COMMAfFULL STOPpFIVE=COMMAfFULL STOPnOUR=COMMAfFULL STOPoN(E=COMMAfFULL STOPo:E=COMMAfFULL STOPnSEV^=COMMAfFUL
L STOPoIX=COMMAfFULL STOPnTHREE=COMMAfFULL STOPoWO=COMMAfFULL STOPnZ*O=COMMAfFULL STOPrRAM FOR E&THaLY HEAV^fUM;nGREAT* Y;Gd(l
HEAV^LY E&THnUM; E&THl,SS* Y;Gd(tM^SI: ORIG(oNGBAT CIRC,D S;S-S*IF D#dZ*OkNUMB* T^+dNEGA_VE CIRC,D D#jNUMB* T^kS;S-S*IF D#dZ*O
kNUMB* T^+sRECT CURR^T SYMBOL$ TWOxHITiSAB,D C&iPPO(T]BUT RELIEV]FACErFACEoC:T(UOUS UND*L(E SYMBOL+bGUIS]FACEmTTO M&KiVES AKUR
U D#dZ*OjOUB, D;DAm^D OF TEXT M&KqGAP FILL*k(I_) RAk,TT* Aa~B>dC>dDAbD>dHAdEbG>dH~IaIcJ~K>dLAbLAdM~NAbG~N~YAdObP>dR~S>cSAdT>cT
AdUaUcV~YAbYAdZAjMEDI) R~YAjPREFIX]NAS)?tSIGN ;USV&AiC;DRAB(DUlH);TAhNUKTAkVIRAMAfOWEL? AAbIcEbIaIcObUaUwIDESdNG MASKhSI:?dLAS
Hf_MESlORCE SYMBOLmYA LAMPhZZY FACEeSYMBOLl,cNA DOUB, HELIXpO NOT LITT* SYMBOLsCUM^T=%PICTUREhTEXT=;D PICTURE+cDOcES NOT C:T
A( AS MEMB*gNORM) SUBGROUP=OR EQU)+jDIVIDE=%REV*S]NEGA_: SLASH+jFORCEfPRECEDE=OR EQU)oOVEfSUCCEED=OR EQU)xG=FACEfRA ABBREVI
A_:?r,TT* AaAbIbUcB>dC>dDAbD>dHAdEbG>dH~IaIcJ>dK>dL~M~NAbG~N~YAdObP>dRAbRAdS>cSAdT>cT>eUaUcV~YAjSIGN ;USV&AiNUKTAfVIRAMAeS&GAm
VOWEL? AAbIbUcEbIaIcObUaUcVOC)IC RaRzLL&?iPH(fM(O _, HORIZ:T) BACKf-00-00b1b2b3b4b5b6e1-00b1b2b3b4b5b6e2-00b1b2b3b4b5b6e3-00b1
b2b3b4b5b6e4-00b1b2b3b4b5b6e5-00b1b2b3b4b5b6e6-00b1b2b3b4b5b6qV*_C) BACKf-00-00b1b2b3b4b5b6e1-00b1b2b3b4b5b6e2-00b1b2b3b4b5b6e
3-00b1b2b3b4b5b6e4-00b1b2b3b4b5b6e5-00b1b2b3b4b5b6e6-00b1b2b3b4b5b6yNG?hORcT.fM(USfOP*ATORiPLUSfT]CIRC,fROSSfF^CEfL(E FACEjOBE
LOSgR<-PO(T(G ;G,uSOLIDUSgQU&EgTR;SPOSI_: M&K*zUB, ACUTE ACC^TmCIRC,D D#jNUMB* T^rOL: EQU)kURLY LOOPkDAGG*fOWN TACKjEXCLAM
A_: M&KqHIGH-REV*SED-9 QUOTA_: M&K+dYPH^g(TEGR)eRSEC_:m,FT &C GREAT*-TH; BRACKET+cOGIC) ;DdORiW L(Ef-9 QUOTA_: M&KqREV*SED-9 Q
UOTA_: M&K+dNEST]GREAT*-TH;m,SS-TH;=%UND*B&+eOBLIQUE HYPH^oPLUSdRECEDESgIME=QUOTA_: M&KuQUES_: M&KnR< &C ,SS-TH; BRACKET+bSOLI
DUS OP*ATORpQU&E (T*SEC_:mUNI:lTACK]COMMAlROKE NOT?oUBSETeCCEEDSgP*SETgSP^SI: M&KpUNI:eP TACKhV*_C) B&=DOUB, ,FT TURNS_,oR< TU
RNS_,w,FT TURNS_,sL(EnWAVY OV*L(Eo-^D]MUL_MAPoL(E EQU) TO OR GREAT*-TH;m,SS-TH;vSL;T]EQU) TO OR GREAT*-TH;m,SS-TH;vGREAT*-T
H; OR EQU) TOy,SS-TH; OR EQU) TO+iSTRUCK CAPIT) CbGAMMAfHbNbPaIcQbRbZjIT)IC CAPIT) DjSM)L DbEbIbJoN-&Y SUMMA_:pSM)L GAMMAfPIq
D FEM)E?lM)E?jSYMBOLlGHNUTgVE OF PEACElWN &ROWHEADjFISH TAILjR< DIAG:) ELLIPSISxTACK=%CIRC, |x-PO(T(G R]TRI;G,mSM)L R]TRI;G,sT
RI;G, %,FT H)F BLACKpR< H)F BLACK+oW&D FAC(G HOOK=%DOTnNOTCH]HOOK=%DOT+dS ;CORAfRROW=;D R< :E E<H BLOCK+aFROM B&i,FTW&DS OF UP
W&DS &ROW+aTO B&g%CORN* ,FTW&DSqDOUB, STROKEnEQUILAT*) &ROWHEADvHORIZ:T) STROKErL&GE TRI;G, &ROWHEADyMEDIUM TRI;G, &ROWHEADzNO
TCH]TAILmSM)L EQUILAT*) &ROWHEADvTRI;G, &ROWHEADy_P ,FTW&DSjR<W&DSzBLACK &ROWfCIRC,D WHITE &ROWzCOMPRESS]&ROWqDASH]&ROWlOUB, &
ROWmF(G*-POST &ROWrH&PO: %B&B ,FT BESIDE DOWNW&DS H&PO: %B&B R<+hUPW&DS H&PO: %B&B R<+mFROM B&iTO B&hW&DSjR< FROM B&iTO B&hW&D
S+bEAVY &ROWfCOMPRESS]&ROWwPAIR]&ROWSnQUADRUP, &ROWpROCKETgS;S-S*IF &ROWpQU&]&ROWnTRI;G, &ROWHEADk-HEAD]&ROW=,FTW&DS OF UPW&D
S TRI;G,-HEAD]&ROW+qTO B&g%BOLD SHAFTkDOUB, HORIZ:T) STROKEyHEAVY SHAFTlL:G _P ,FTW&DSjR<W&DStMEDIUM SHAFTmN&ROW SHAFTmV*Y HEA
VY SHAFT+bDASH]&ROWmPAIR]&ROWSnZIGZAG &ROWzP, &ROWlWO HEAD]&ROWn-HEAD]&ROW %TRI;G, &ROWHEADS+pWHITE &ROW=WITH( TRI;G, &ROWHEA
D+lZIGZAG &ROWvRACHMA?jFT(G PO(T R<W&DS &ROW+cG:=FACEjESSdIVE SLOW?nOMED&Y CAMELmOL(G FACEkP OF BLOODj,TfUM %DRUMS_CKStUCKcMP
L(GgPLOY; AFFIX ATTACH]E HOOKgI HOOKg,FT-TO-R< SEC;TuSEC;TgTAILcNG^T=HOOKvHIGH ACUTEfCIRC,gDOTdGRAVEfL(Ed:G GRAVEkT< ACUTElV*_
C)=SEC;TpWAVEj,FT HORIZ:T) SEC;TvOW ACUTEeRROWfCIRC,gDOTdGRAVEfL(Ed:G GRAVEkT< ACUTElV*_C)=SEC;TpWAVEiMID HORIZ:T) SEC;TrV*_
C) SEC;TtR< HORIZ:T) SEC;T+dDOUB, M&Kl,TT* AaOUdBbD=ScHcEaEbUcF=NdG=R SfHaLcIaEcJ=M=SdN=SdS=%DOTk%DOTaS (SIDE ;D.+cK=MbR SeKcL
aHb:G IbUgM=N=SdSb%DOTkN=M=SdSb%DOTjAS) AbIbObUhOaAbOHcUbWcP=Nc*N( AMbNjR=ScHbOM;I; IbUkS=J=SdK=RdMbNbP=RdSbT=Rd%DOT=|pHORT Ig
LO; ;cDHcEEbHbNcJb:bWcUhT=R SdScHcU=NcHbIcVaOC)IC MjW=RcAbEIcHbIbOaWdXaWcYEjPUNCTUA_: CH(OOK FULL STOP+dSIGN O %CROSSrTHICK ,T
T* SE,CTOR+dVDdE-MAIL SYMBOLmAG,dR=OF MAIZEfRICEh%HE&(G AIDrTH=GLOBE AM*ICAShSIA-AUSTR)IAoEUROPE-AFRICAsROUNDkST SYRIAC CROSSq
DITORI) COR:ISqGGbYP_; HI*OGLYPH A001b2b3b4b5a~6aAbBc7b8b9c10b1b2b3b4a~5b6b7a~8b9c2!c30b1b2a~3b4b5b6b7b8b9c40a~1b2a~3a~4b5a~6b
7b8b9c5!c6!c70dA001b2b3b4b5b6b7aAbBc8b9c1!c2!c30b1b2fB001b2b3b4b5a~6b7b8b9dEG( SEGM^TnC001b2aAbBbCc3b4b5b6b7b8b9c10a~1b2b3b4b5
b6b7b8b9c20b1b2b3b4eD001b2b3b4b5b6b7b8a~9c1!c20b1b2b3b4b5b6b7a~8b9c30b1a~2b3b4a~5b6b7b8b9c40b1b2b3b4b5b6a~7b8a~9c50a@bGbHbIc1b
2a~3b4a~5b6b7b8b9c60b1b2b3b4b5b6b7a@bGbHfE001b2b3b4b5b6b7b8a~9aAd10b1b2b3b4b5b6a~7a~8b9c20a~1b2b3b4b5b6b7b8a~9c30b1b2b3b4a~6b7
b8dND SEGM^TlF001a~2b3b4b5b6b7b8b9c10b1b2b3a~4b5b6b7b8b9c20b1a~2b3b4b5b6b7b8b9c30b1a~2b3b4b5b6b7a~8a~9c40b1b2b3b4b5a~6a~7a~8b9
c50b1aAbBbCc2b3eG001b2b3b4b5b6a~7aAbBc8b9c10b1a~2b3b4b5b6b7b8b9c20a~1b2b3b4b5b6a~7b8b9c30b1b2b3b4b5b6a~7a~8b9c40b1b2b3a~4b5a~6
b7b8b9c50b1b2b3b4eH001b2b3b4b5b6a~7b8dORIZ:T) JO(*rI001b2b3b4b5a~6b7b8b9aAd10a~1a~2b3b4b5dNS*T AT BOTTOM ^DdST&TmTOP ^DdST&TtK
001b2b3b4b5b6b7b8eL001b2a~3b4b5b6a~7b8eM001aAbBc2b3a~4b5b6b7b8b9c10a~1b2a@bGbHc3b4b5a~6a~7a~8b9c20b1b2a~3b4a~5b6b7b8a~9c30b1a~
2b3aAbBc4b5b6b7b8b9c40a~1b2b3b4eN001b2b3b4b5b6b7b8b9c10b1b2b3b4b5b6b7b8aAbBc9c20b1b2b3b4b5a~6b7b8b9c30b1b2b3a~4a~5a~6b7a~8b9c4
0b1b2dL001b2b3b4b5a~6b7b8b9c10b1b2b3b4b5b6b7a~8b9c20eU001b2b3b4b5b6b7b8b9c10a~1a~2b3b4b5b6b7b8a~9c20b1b2aAgO001a~2b3b4b5a~6a@c
7b8b9c10aAbBbCc1b2b3b4b5b6b7b8b9aAd20a~1b2b3b4a~5a~6b7b8b9aAd30a~1b2b3a~4b5b6aAbBbCbDc7b8b9c4!c50aAbBc1dV*LAY MIDD,oP001a~2b3
a~4b5b6b7b8b9c10b1eQ001b2b3b4b5b6b7eR001b2a~3aAbBc4b5b6b7b8b9c10a~1b2b3b4b5b6a~7b8b9c2!eS001b2a~3b4b5b6a~7b8b9c10b1b2b3b4aAbBc
5b6b7a~8b9c20b1b2b3b4b5b6aAbBc7b8b9c30b1b2b3b4b5a~6b7b8b9c40b1b2b3b4b5b6eT001b2b3a~4b5b6b7a~8a~9aAd10b1a~2b3b4b5b6a~7b8b9c2!c3
0b1b2a~3a~4b5b6eU001b2b3b4b5b6aAbBc7b8b9c1!c20b1b2b3a~4b5b6b7b8b9aAd30b1b2a~3b4b5b6b7b8b9c40b1b2eV001a@bGbHbIc2a~3b4b5b6b7aAbB
c8b9c10b1aAbBbCc2aAbBc3b4b5b6b7b8b9c20a@bGbHbIbJbKbLc1b2b3a~4b5b6b7b8a~9aAd30a~1a~2b3a~4b5b6b7a~8b9c40aAe*_C) JO(*pW001b2b3a~4
b5b6b7b8b9aAd10a~1b2b3b4a~5b6b7a~8a~9c20b1b2b3b4a~5eX001b2b3b4aAbBc5b6a~7b8aAfY001a~2b3b4b5b6b7b8eZ001b2aAbBbCbDc3aAbBc4a~5a~6
b7b8b9c10b1b2b3b4b5a@bGbHbIc6a@bGbHy< PET),D OUTL(]BLACK FLORETTE+fO(T]BLACK ST&kP(WHEEL ST&nREC_L(E& BLACK ST&+eSPOK]AST*ISKp
TE&DROP-SPOK]PROPELL* AST*ISK+jH NOTEkJECT SYMBOLlLBAS; ,TT* AbBEcCEbHEdDEbHEdEaIcFEcGEbHAMMAeEcJEdHEcIbJEcKEbHEd,b,dMEcNAbDEc
EbJEdObPEcQEcREbREdSEbHEdTEbHEdUbVEcXEcYbZEbHEqECTRIC &ROWfL< BULBkPLUGeTORCHg) (T*SEC_:uM^T OF=OP^(G DOWNW&DSjUPW&DSp%DOT.jL:
G HORIZ:T) STROKEwOV*B&hTWO HORIZ:T) STROKESwUND*B&iV*_C) B& AT ^D OF HORIZ:T) STROKE++bPH;TfVATORgFbYMAIC ,TT* )EPHeY(eBETHe
D)ETHgGIMELfHEaTHeKAPHeLAMEDHgMEMdNUNdPEcQOPHeRESHeSADHEdMEKHfH(eTAWcETHeWAWdYODHeZAY(lIGATURE ZAY(-YODH+aM DASHeQUADeSPACEgOJ
I COMP:^T B)DeCURLY HAIRkR]HAIRiWHITE HAIRuMODIFI* FITZPATRICK TYPE-1-2d3b4b5b6+fPHASIS SYMBOLmTY DOCUM^TiNESTdOTE=PADbGEjPAGE
aSfSET=%,FT &ROW.qOV*B&hR< &ROW.rSM)L CIRC,.+gN DASHeQUADeSPACEgD OF GU&D]&EAmL(EeMEDIUMgPROOFcTECT]&EAoSE,CT]&EAnTEXTdR;SMISS
I:=BLOCKv%,FTW&DS &ROW.+cQaUIRYfT* SYMBOLkVELOPE=%DOWNW&DS &ROW.vL<N(GwOLbMbTcP~QU) ;D P&),L TOpTO BY DEF(I_:nOR GREAT*-TH;m,S
S-TH;jPRECEDESiSUCCEEDSpS COL:fSIGNa. ,FTW&DS &ROWpPLUS?jR<W&DS &ROWq_LDE OP*ATORtND SL;T]P&),L=%_LDE.+l%BUMPY.lDOT |j(F(ITY |
oTWO DOTS. ;D TWO DOTS |+r%AST*ISKrI;GUL& TOkV)^T TOc%FOUR DOTS.+eRASE TO THE ,FTeR<qIS$ :EdTWOlROR-B&R]BLACK CIRC,gDIAM:DhSQ
U&EmWHITE CIRC,gDIAM:DhSQU&EySAbCaAPEe_MAT]SYMBOLiSiTBbHIOPIC COL:dMB((G GEM(A_: ;D VOWEL ,NGTH M&KvM&KpVOWEL ,NGTH M&KyMAfD#j
FULL STOPjNUMB* E<YgFIFTYeORTYfHUNDREDhN(ETYgSEV^TYgIXTYfT^=THOUS;DlHIRTYfW^TYnP&AGRAPH SEP&ATORsREFACE COL:nQUES_: M&KnSE
C_: M&KkMICOL:iYLLAB, BAa~BAa~EaEcIbObUcEaEcIbOa~UbWAbEaEcIdCAa~CAa~EaEcHAa~EaEcHAa~EaEcIbObUcIbObUcIbObUcEaEcHAa~EaEcIbOa~UbW
AdIbOa~UbWAdDAa~DAa~EaEcHA~EaEcIbObUcIbOa~UbWAdEaEcIbOa~UbW~ZA~EaEcIbObUdFAa~EaEcIbObUbWAbEaEcIcYAdGAa~EaEcGAa~EaEcIbObUbWAa~E
aEcIdIbLOTT) Aa~EaEcIbOa~UbWAjOa~UaRAGE BWEEcIdFWEEcIdGWEaEcIdHHWAeKWEaEcIdMWEEcIdPWEEcIdQWEaEcIjWAa~EaEcIcYAa~EaEcIbObUdHAa~E
aEcHAa~EaEcIbObUbWAbEaEcIcYAa~EaEcIbObUdIbOa~UcJAa~EaEcIbOa~UbWAdKAa~EaEcIbOa~UbWAa~EaEcIcXAa~EaEcIbObUbWAa~EaEcIdYAa~EaEcIbOb
UdLAa~EaEcIbOa~UbWAdMAa~EaEcIbOa~UbWAbEaEcIcYAdNAa~EaEcIbOa~UbW~YAa~EaEcIbOa~UbWAePAa~EaEcHAaAbRYNGE) Aa~EaEcIbObUkEaEcIbOa~Ub
WAdIbOa~UbWAbEaEcIdQAa~EaEcHAa~EaEcIbObUbWAa~EaEcIdIbOa~UbWAa~EaEcIcYAa~EaEcIbObUdRAa~EaEcIbOa~UbW~YAdSAa~EaBATBEIT BWAdFWAdMW
AdPWAlEcHAa~EaEcIbOa~UbWAdIbOa~SAa~EaEcIbObUcUbW~ZAa~EaEcIbObUbWAeTAa~EaEcHAa~EaEcIbOa~UbWAdIbOa~SAa~EaEcIbObUbWAdTHA~EaEcIbOb
UdUbW~ZAa~EaEcIbOa~UdVAa~EaEcIbObUbWAdWAa~EaEcIbOa~UcXAa~EaEcIbOa~UbWAa~EaEcIcYAa~EaEcIbObUdYAa~EaEcIbOa~UcZAa~EaEcHAa~EaEcIbO
bUbWAdIbOa~UbW~ZAa~EaEcIbObUmT:) M&K CHIRETgD*ETa-HIDETkIFATfHIDETfK^ATeURTeRIKRIKgSHORT RIKRIKmYIZETqWORDSPACEqXcUL* C:ST;TmR
O?f-CURR^CY?oPE; CAST,gPOST OFFICEtV*GRE^ TREEnXCESSdLAMA_: M&KeQUES_: M&KxPRESSI:,SS FACErT^D]&ABIC-(DIC D#dZ*O+dRAT*RESTR
I) )I^sEMELY HEAVY FIVE SPOK]AST*ISKuGREEK CROSSlS)_REgIX SPOK]AST*ISKtWHITE CIRC,gSQU&E+bYEaGLASSEShSeFACE HOLD(G BACK TE&SsM
ASSAGEhP)MeSAVOUR(G DELICIOUS FOODxCREAM(G ( FE&rTHROW(G A KISSp%COLD SWEATiWBOY HATkDIAG:) MOUTHoF(G* COV*(G CLOS]LIPS+bHEAD-
B;DAGEmLOOK OF TRIUMPHpMEDIC) MASKl:OC,hNO GOOD GESTUREpOK GESTUREjNE EYEBROW RAISEDrP^ EYES ;D H;D OV* MOUTHyMOUTH=;D COLD SW
EAToVOMIT(GtP&TY HORN ;D P&TY HATxEEK(G EYEk,AD(G EYESnROLL(G EYESmSTUCK-OUT T:GUE=;D T<LY-CLOS]EYEStW(K(G EYE+gTE&S OF JOYlH*
MOMET*lUNEV^ EYES ;D WAVY MOUTH+bOUT MOUTHpSIMI,?lTORYfIRYdLAFELe,N ,AFh(G DIAG:) CROSS(G NORTH EAST &ROWqRIS(G DIAG:)y( WHIT
E CIRC, ( BLACK SQU&E+uMILYeRSI SYMBOLkTH* CHRISTMASoX IC:eMACH(EkE&FUL FACEjTH*fM)E?i((E ORD() (DICATORyNC*eRRIS WHEELiYeFbIE
LD HOCKEY S_CK ;D B)LzGURE DASHeSPACEk, CAB(EThFOLD*gSEP&ATORlM FRAMESgPROJECTORmNITE P&T (TEGR)sRE=^G(EfXT(GUISH*nCRACK*hWOR
K SP&KL*jSgST PLACE MED)lQU&T* MO:=SYMBOLg%FACEwSTR:G ISOLATEsSH=CAKE %SWIRL DESIGNxEYEd(G PO, ;D FISHsT]H;D?oVE DOT M&KePUNCT
UA_:tLAG ( HO,jM(GOfT SHOEfBREADfNESSgEUR-DE-LISjX]BICEPSlOPPY DISKiR) HE&TjW*=PLAY(G C&DSmUNCTUA_: M&KvUSH]FACEkYa(G DISCe^VE
LOPEiSAUC*mOGaGYdLD*eNDUEeOTaPR(TSiR )LeCESdK ;D KNIFE=%PLATEv]P&AGRAPHOSo(GeM FEEDgTUNE COOKIEmUNTA(fR B)LO:-SPOK]AST*ISKxCLU
B-SPOK]AST*ISKtORN* &ROWS CIRCL(G ;_CLOCKWISE+kDOT M&KePUNCTUA_:p,AF CLOV*lPO(T]BLACK ST&sTE&DROP-SPOK]AST*ISKz-P*-EM SPACEnT
H ROOTjX FACEhRAC_: NUM*ATOR :EnSLASHlME %; XePICTUREh_,SoEEZ(G FACEkNCH FR;C?iIESkI]SHRIMPkOG FACEgNT-FAC(G BABY CHICKr_LT]SH
ADOW]WHITE R<W&DS &ROW+pWNa(G FACE %OP^ MOUTH+cSaIcUEL PUMPhLL BLOCKfMO: SYMBOLg%FACEoOUT* JO(kSTOPfWIDTH AMP*S;DiPOSTROPHEjS
T*ISKiBROK^ B&kC^T?iIRCUMF,X ACC^TqOL:dMMAb*CI) ATnD#dZ*OjOLL&?lEQU)S?kXCLAMA_: M&KqFULL STOPjGRAVE ACC^TkEAT*-TH;?rHYPH^-M(US
mLAT( CAPIT) ,TT* @bGbHbIbJbKbLbMbNbObPbQbRbSbTbUbVbWbXbYbZqSM)L ,TT* @bGbHbIbJbKbLbMbNbObPbQbRbSbTbUbVbWbXbYbZtEFT CURLY BRAC
KETnP&^THESISlSQU&E BRACKEToWHITE P&^THESISuSS-TH;?nOW L(EiMACR:gNOT?hUMB*?lP*C^T?lLUS?iOUND?kQUES_: M&KlOTA_: M&KoREV*SE SOLI
DUSo< CURLY BRACKETnP&^THESISlSQU&E BRACKEToWHITE P&^THESISxSEMICOL:iOLIDUSh_LDEfV*_C) L(EnW:?iY^?qNC_: APPLICA_:r*) URNjSEdVS
1b2b3b4eGAME DIEgRLICfE&=%H;D,SiOUT HUBoM ST:Eg(IeNIEdOMETRIC PROPOR_:l)LY EQU) TOfIV)^T TOyRGI; CAPIT) ,TT* A^cNcB;dC;cH&c(dI
LdD:d^cG;cH;eHAEbRcEbIEcOEd(cJH;dILdK;cH&eLASdM;dN&d:cP&cH&eQ&dRAEdS;cH(eT;bRdUNcV(dWEcX;dYNcZ^cH&t,TT* A^c(cNcB;dC;cH&c(dILd
D:dELIFIeNcFIcG;cH;eHAEbRaD?iEbIEcOEd(cJH;dILdK;cH&eLABI)?jSdM;dN&d:cP&cH&eQ&dRAEdS;cH(eT;bRcURN]G;kUNcV(dWEcX;dYNcZ^cH&lMTAVR
ULI CAPIT) ,TT* A^c(cNcB;dC;cH&c(dILdD:dELIFIeNcFIcG;cH;eHAEbRaD?iEbIEcOEd(cJH;dILdK;cH&eLABI)?jSdM;dN&d:cP&cH&eQ&dRAEdS;cH(e
T;bRcURN]G;kUNcV(dWEcX;dYNcZ^cH&+cP&AGRAPH SEP&ATORtSM)L ,TT* A^cNcB;dC;cH&c(dILdD:d^cG;cH;eHAEbRcEbIEcOEd(cJH;dILdK;cH&eLASd
M;dN&d:cP&cH&eQ&dRAEdS;cH(eT;bRdUNcV(dWEcX;dYNcZ^cH&yRM; P^NY?pTA M&KiHOSTeIMEL SYMBOLkRAFFE FACEjLaS SYMBOLlLAGOLI_C CAPIT) ,
TT* AZUdBIG YUSgUKYeCAUDATE CHRIVInHRIVIgDJ*VIfOBROeZELOfFITAdRITUfGLAGOLIhH*UeIaNI_) IZHElOTAT]BIG YUShSM)L YUSqZHEbITSAhKAKO
eLAT(ATE MYSLITEpJUDIJEhMYSLITEhNASHIf:UcTUdPEbOKOJIgRITSIfSHAbTAaPICgLOVOeM)L YUS=%TAILsPID*Y HAkTROKUTAS_ AlSIcVRIDOgUKUdVED
EeYA_d*IbUcSTUeObUcZEMLJAfHIVETEwSM)L ,TT* AZUdBIG YUSgUKYeCAUDATE CHRIVInHRIVIgDJ*VIfOBROeZELOfFITAdRITUfGLAGOLIhH*UeIaNI_) I
ZHElOTAT]BIG YUShSM)L YUSqZHEbITSAhKAKOeLAT(ATE MYSLITEpJUDIJEhMYSLITEhNASHIf:UcTUdPEbOKOJIgRITSIfSHAbTAaPICgLOVOeM)L YUS=%TAI
LsPID*Y HAkTROKUTAS_ AlSIcVRIDOgUKUdVEDEeYA_d*IbUcSTUeObUcZEMLJAfHIVETE+cSS OF MILKlEICH ST&KkOBE %M*IDI;SrVESdW(G ST&lO) NETf
TcGG,SfLF*eRILLAfTHIC ,TT* AHSAdIHVUSgBAIRK;hDAGSeEISdFAIHUfGIBAeHAGLdWAIRfIGGWSeUJAeJ*dKUSMAfLAGUSfM;NAfNAUTHSf(E HUNDREDiTYg
OTH)fPAIRTHRAiQAIRTHRAiRAIDAfSAUILfTEIWSeHIUTHgURUSeW(JAsRADUA_: CAPlNTHA AU ,NGTH M&Ko,TT* AaAbIbUcB>dC>dDAbD>dHAdEEcG>dH~IaI
cJ>dK>dLAbLAdM~NAbG~N~YAdOOcP>dR~S>cSAdT>cT>eUaUcVAbEDIC ;USV&AiDOUB, ;USV&AuOC)IC LaLcRaRkYAjOMcSIGN ;USV&AhVAGRAHAiC;DRAB(DU
kOMB((G ;USV&A.yNUKTAfPLUTAfVIRAMAeS&GAmVOWEL? AAbIbUcEEcIaIcOOcUaUcVOC)IC LaLcRaR+aPESdVE ACC^TkEAT*-TH;. DOUB,-L(E EQU). ,S
S-TH;+h,SS-TH;. DOUB,-L(E EQU)+hR<W&DS &ROWqSIMIL&. ,SS-TH;pOR EQU)pL;T]EQU). ,SS-TH;. SL;T]EQU)++cND NOT APPROXIMATEpS(G,-L(
E NOT EQU) TO+cBESIDE ,SS-TH;pUT NOT EQU) TOfIV)^T TOvCLOS]BY CURVEa. SL;T]EQU)+jEQU) TO OR ,SS-TH;vOR APPROXIMATElEQU) TOfI
V)^T TOn,SS-TH;jSL;T]EQU) TO=%DOT.=,FTk(SIDE+iV* EQU) TOjLAPP(G ,SS-TH;vSIGNe%CIRC, (SIDEnDOTdQUES_: M&K.+iEK ACROPH:IC AT_C F
IFTY=STAT*ShT)^TSgHOUS;D=STAT*SuVE=HUNDRED=STAT*ShT)^TSpSTAT*ShT)^TSgHOUS;D=T)^TSv:E DRACHMAhH)FdUNDR]STAT*ShT)^TSpQU&T*hTHOU
S;D STAT*ShT)^TSuT^ MNASeSTAT*ShT)^TSgHOUS;D STAT*S+aC&YS_; FIVE HUNDREDvYR^AIC TWO DRACHMASvDELPHIC FIVE MNASrEPIDAURE; FIV
E HUNDREDmTWO=DRACHMASxH*AEUM :E P,THR:rMI:I; FIFTYf:EdT^oMESS^I; T^nNAXI; FIVE HUNDREDtSTRA_; FIFTY MNAStTHESPI; FIFTYdVE HUN
DREDhTHOUS;Dn:E=HUNDREDhTHOUS;DmT^cHIRTYeREE HUNDREDmWOlROEZ^I; FIFTY=)T*NATE$sVE=HUNDREDmT^=)T*NATE$+nNO TE,IAjROURA?jTABE?lB
ETA SYMBOLlCAPIT) DOTT]LUNATE SIGMA SYMBOL+aKAI SYMBOLk,TT* )PHA=%DASIA=;D OXIA=;D PROSGEGRAMM^IxP*ISPOM^I=;D PROSGEGRAMM^I+dR
OSGEGRAMM^IoV&IA=;D PROSGEGRAMM^I+iMACR:gOXIAePROSGEGRAMM^InSILI=;D OXIA=;D PROSGEGRAMM^IxP*ISPOM^I=;D PROSGEGRAMM^I+dROSGEGRA
MM^IoV&IA=;D PROSGEGRAMM^I+iT:OSfV&IAeRACHYqRCHAIC SAMPInBETAeCHIdDELTAfEPSIL:=%DASIA=;D OXIAeV&IApOXIAePSILI=;D OXIAeV&IApT:O
SfV&IArTA=%DASIA=;D OXIA=;D PROSGEGRAMM^IxP*ISPOM^I=;D PROSGEGRAMM^I+dROSGEGRAMM^IoV&IA=;D PROSGEGRAMM^I+iOXIAePROSGEGRAMM^InS
ILI=;D OXIA=;D PROSGEGRAMM^IxP*ISPOM^I=;D PROSGEGRAMM^I+dROSGEGRAMM^IoV&IA=;D PROSGEGRAMM^I+iT:OSfV&IAoGAMMAfHETAeIOTA=%DASI
A=;D OXIAeP*ISPOM^IlV&IAoI)Y_KAjMACR:gOXIAePSILI=;D OXIAeP*ISPOM^IlV&IApT:OSfV&IAeRACHYqKAPPAfLAMDAfMUcNUcOMEGA=%DASIA=;D OXI
A=;D PROSGEGRAMM^IxP*ISPOM^I=;D PROSGEGRAMM^I+dROSGEGRAMM^IoV&IA=;D PROSGEGRAMM^I+iOXIAePROSGEGRAMM^InSILI=;D OXIA=;D PROSGEGR
AMM^IxP*ISPOM^I=;D PROSGEGRAMM^I+dROSGEGRAMM^IoV&IA=;D PROSGEGRAMM^I+iT:OSfV&IAoICR:=%DASIA=;D OXIAeV&IApOXIAePSILI=;D OXIAeV&
IApT:OSfV&IAsPAMPHYLI; DIGAMMArHIcIbSIdRHO=%DASIAoS;cHOcIGMAfTAUcHETAfUPSIL:=%DASIA=;D OXIAeP*ISPOM^IlV&IAoI)Y_KAjMACR:gOXIAe
T:OSfV&IAeRACHYtXIcYOTdZETAkUNATE SIGMA SYMBOLtREV*S]DOTT]LUNATE SIGMA SYMBOL+aLUNATE SIGMA SYMBOL+cTHETA SYMBOLuDASIA=;D OXIA
eP*ISPOM^IlV&IAoI)Y_KA ;D OXIAeP*ISPOM^IlV&IAjT:OSoRACHMA?mFIVE OBOLS?oOUR OBOLS?pGRAMMA?l(DIC_:?mSTRUM^T) NOTA_: SYMBOL-1a1b2
b3b4b7b8b9c2a3b4b5b6b7b9c30b2b6b7b8b9c4a0b2b3b5b7b8b9c5a0b1b2b3b4c7b8+eKAI SYMBOLiPPA SYMBOLlOR:ISgYATHOS BASE?r,TT* &CHAIC KO
PPAnDIGAMMAhKOPPAfSAMPIeM)L CAPIT) GAMMAfLAMDAfOMEGAfPIbSIdRHOq_GMAgYOTjITRA?jOW* NUM*)?rUNATE EPSIL: SYMBOLoSIGMA SYMBOLtMETR
ETES?mUSIC) ,IMMAoNUM*)?mOBOL?iNE H)F?=)T*NATE$yQU&T*?pUNKIA?kXIAeP*ISPOM^IkHI SYMBOLjI SYMBOLiROSGEGRAMM^InSILI=;D OXIAeP*ISP
OM^IlV&IApQUES_: M&KnREV*S]LUNATE EPSIL: SYMBOL+dHO SYMBOLg%STROKE SYMBOLwS(USOID?mM)L DOTT]LUNATE SIGMA SYMBOL+a,TT* )PHA=%DA
SIA=;D OXIA=;D YPOGEGRAMM^IwP*ISPOM^I=;D YPOGEGRAMM^I+dV&IA=;D YPOGEGRAMM^IxYPOGEGRAMM^IxMACR:gOXIA=;D YPOGEGRAMM^IwP*ISPOM^
I=;D YPOGEGRAMM^I+cSILI=;D OXIA=;D YPOGEGRAMM^IwP*ISPOM^I=;D YPOGEGRAMM^I+dV&IA=;D YPOGEGRAMM^IxYPOGEGRAMM^IxT:OSfV&IA=;D YPOG
EGRAMM^IwRACHYgYPOGEGRAMM^IxRCHAIC KOPPAfSAMPInBETAeCHIdDELTAeIGAMMAhEPSIL:=%DASIA=;D OXIAeV&IApOXIAePSILI=;D OXIAeV&IApT:OSf
V&IArTA=%DASIA=;D OXIA=;D YPOGEGRAMM^IwP*ISPOM^I=;D YPOGEGRAMM^I+dV&IA=;D YPOGEGRAMM^IxYPOGEGRAMM^IxOXIA=;D YPOGEGRAMM^IwP*ISP
OM^I=;D YPOGEGRAMM^I+cSILI=;D OXIA=;D YPOGEGRAMM^IwP*ISPOM^I=;D YPOGEGRAMM^I+dV&IA=;D YPOGEGRAMM^IxYPOGEGRAMM^IxT:OSfV&IA=;D Y
POGEGRAMM^IxYPOGEGRAMM^IwF() SIGMAlGAMMAfHETAeIOTA=%DASIA=;D OXIAeP*ISPOM^IlV&IAoI)Y_KA=;D OXIAeP*ISPOM^IlT:OSfV&IAtMACR:gOXIA
eP*ISPOM^IkSILI=;D OXIAeP*ISPOM^IlV&IApT:OSfV&IAeRACHYqKAPPAeOPPAfLAMDAfMUcNUcOMEGA=%DASIA=;D OXIA=;D YPOGEGRAMM^IwP*ISPOM^I=;
D YPOGEGRAMM^I+dV&IA=;D YPOGEGRAMM^IxYPOGEGRAMM^IxOXIA=;D YPOGEGRAMM^IwP*ISPOM^I=;D YPOGEGRAMM^I+cSILI=;D OXIA=;D YPOGEGRAMM^I
wP*ISPOM^I=;D YPOGEGRAMM^I+dV&IA=;D YPOGEGRAMM^IxYPOGEGRAMM^IxT:OSfV&IA=;D YPOGEGRAMM^IxYPOGEGRAMM^IwICR:=%DASIA=;D OXIAeV&IAp
OXIAePSILI=;D OXIAeV&IApT:OSfV&IAsPAMPHYLI; DIGAMMArHIcIbSIdRHO=%DASIAfPSILIoSAMPIdNcHOcIGMAe_GMAgTAUcHETAfUPSIL:=%DASIA=;D OX
IAeP*ISPOM^IlV&IAoI)Y_KA=;D OXIAeP*ISPOM^IlT:OSfV&IAtMACR:gOXIAeP*ISPOM^IkSILI=;D OXIAeP*ISPOM^IlV&IApT:OSfV&IAeRACHYtXIcZETAl
REV*S]DOTT]LUNATE SIGMA SYMBOL+aLUNATE SIGMA SYMBOL+hUBSCRIPT SM)L ,TT* BETAeCHIdGAMMAfPHIdRHOzYMBOL TAU RHOoT)^T?kHETA SYMBOL
kREE OBOLS?kQU&T*S?s:OSeRYBLI: BASE?rWO OBOLS?kTHIRDS?pUPSIL: %ACUTE ;D HOOK SYMBOLvDIA*ESIS ;D HOOK SYMBOLzHOOK SYMBOLyV&IAeO
C) NOTA_: SYMBOL-1a!c2a0b1b2b3b4c3b4b5a0b1b2b3b4c6b7b8b9xXESTES?lYE&?iPOGEGRAMM^InZ*O?lN APP,fBOOKeHE&TfS)ADjIMAC(G FACElNN(
G CAT FACE %SMIL(G EYES+aFACE=%:E L&GE ;D :E SM)L EYE+bSMIL(G EYESlT& EYES+aOUP M&KeSEP&ATORmW(G HE&TmSbU&;I?iDSM;hIDE DOGgT&e
J&A_ ABBREVIA_:?rD#dZ*Ok,TT* AaAbIbUcB>dC>dDAbD>dHAdEbG>dH~IaIcJ>dK>dLAbLAdM~NAbG~N~YAdObP>dR~S>cSAdT>cT>eUaUcVAbOC)IC LaLcRaR
kY~ZHAkOMcRUPEE?kSIGN ;USV&AhVAGRAHAiC;DRAB(DUkIRC, NUKTA.sMADDAHgNUKTAfSHADDAfUKUNfTHREE-DOT NUKTA.uWO-CIRC, NUKTA.wVIRAMAeS&
GAmVOWEL C;DRA EbOiSIGN AAbIbUcC;DRA EbOiEbIaIcObUaUcVOC)IC LaLcRaR+cNJ)A G:DI D#dZ*Ok,TT* AaAbIbUcB>dC>dDAbD>dHAdEEcG>dH~IaIc
J>dK>dLAbLAdM~NAbGAdOOcP>dR~S~T>cT>eUaUcV~YAjOMcSIGN ;USV&AiVIS&GAmVIRAMAfOWEL? AAbIbUcEEcIaIcOOcUaUzRMUKHI ABBREVIA_:?qDDAKf
D#dZ*OkEK :K&iIRId,TT* AaAbIbUcB>dC>dDAbD>dHAdEEcF~G>bHAeH~IaIcJ>dK>bHAeLAbLAdM~NAbG~N~YAdOOcP>dRAbRAdS>dT>cT>eUaUcV~Y~ZAjSIG
N ADAK B(DIkB(DIfNUKTAfUDAATfVIRAMAeS&GAhYAKASHl_PPIfURAdVOWEL? AAbIbUcEEcIaIcOOcUaUwHADESdIR SPACEgCUTfLFWIDTH BLACK SQU&EmDO
WNW&DS &ROWpFORMS L< V*_C)uH;GUL FILL*g,TT* AaEcCHIEUCHgIEUCfEaObUcHIEUHfIaEUNGfKHIEUKHgIYEOKa-SIOSlMIEUMfNIEUNa-CIEUCfHIEUHlO
aEcPHIEUPHgIEUPa-SIOSkRIEULa-HIEUHfKIYEOKgMIEUMfPHIEUPHgIEUPfSIOSeTHIEUTHnSIOSdS;GCIEUCfKIYEOKgPIEUPfSIOSe_KEUTlTHIEUTHgIKEUTg
UbWAaEcEaOcIcYAaEcEaOcIbObUqIDEOGRAPHIC COMMAfFULL STOPvKATAK;A ,TT* AbEbHAbEbIbObUcIbKAbEbIbObUcMAbEbIbObUcNaAbEbIbObUcObRAbE
bIbObUcSAbEbIbM)L AbEbIbObTUcUbYAbObUhObUcTAbEbIbObUcUbWAbOcYAbObUjMIDD, DOTkSEMI-VOIC]SOUND M&KwVOIC]SOUND M&Ks-HIRAG;A PROL:
G]SOUND M&K+m,FT CORN* BRACKETpW&DS &ROWpR< CORN* BRACKETpW&DS &ROWqUPW&DS &ROWnWHITE CIRC,uMBURG*gM*=;D PICKeSICK,gWR^CHoSAb
T* FACEkND %(DEX ;D MIDD, F(G*S CROSSED+aF(G* ;D THUMB CROSSED+kBAGbLLeSHAKEgGUL CHOSE:G CE:GCHIEUMCHIEUCHgIEUCfSIOSdS;GCIEUCf
SIOStHIEUCHa-HIEUHfKHIEUKHmTUEUMCHIEUCHgIEUCfSIOSdS;GCIEUCfSIOSqIEUCa-IEUNGlFILL*gHIEUHa-SIOSkIEUNGa-CHIEUCHgIEUCfHIEUHfKIYEOK
gMIEUMfP;SIOSgHIEUPHgIEUPfRIEULfSIOSeTHIEUTHgIKEUTmKAPYEOUNMIEUMfPHIEUPHgIEUPfRIEULfSS;GPIEUPrHIEUKHgIYEOKa-_KEUTnMIEUMa-KIYEO
KgPIEUPfSIOSe_KEUTmNIEUNa-CIEUCfHIEUHfKIYEOKgPIEUPfSIOSe_KEUTmP;SIOSgHIEUPHa-HIEUHfPIEUPmIEUPa-CHIEUCHgIEUCfHIEUHfKHIEUKHgIYEO
KgNIEUNfPHIEUPHhSIOSa-CIEUCfKIYEOKgPIEUPfTHIEUTHgIKEUTkS;GSIOSjTHIEUTHgIKEUTmRIEULa-CIEUCfHIEUHfKAPYEOUNPIEUPmHIEUKHgIYEOKgMIE
UMfNIEUNfPIEUPfSIOSdS;GKIYEOKgPIEUPf_KEUTl_KEUTmSIOSa-CHIEUCHgIEUCfHIEUHfIEUNGfKHIEUKHgIYEOKgMIEUMfNIEUNfPHIEUPHgIEUPa-KIYEOKm
RIEULfSS;GSIOSjTHIEUTHgIKEUTkS;GCIEUCa-HIEUHlHIEUHfIEUNGfKIYEOKgNIEUNfPIEUPfRIEULfSIOSa-PIEUPkTHIEUTHgIKEUTgYEOR(HIEUHqTHIEUTH
gIKEUTa-CIEUCfKIYEOKgMIEUMfPIEUPfRIEULfSIOSlYEOR(HIEUHjSIEUNGrDOUB, DOT T:E M&KuFILL*gJ:GSE:G CHIEUCHgIEUCa-PIEUPfSS;GPIEUPqHI
EUHa-MIEUMfNIEUNfPIEUPfRIEULlIEUNGa-KHIEUKHgIYEOKgSS;GKIYEOKrKAPYEOUNMIEUMfPHIEUPHgIEUPfRIEULmHIEUKHgIYEOKa-CHIEUCHhHIEUHfKHIE
UKHhNIEUNfPIEUPfRIEULfSIOSa-KIYEOKsMIEUMa-CHIEUCHgIEUCfHIEUHfKIYEOKgNIEUNfP;SIOSgIEUPa-SIOSkRIEULfSIOSdS;GNIEUNfSIOSpNIEUNa-CH
IEUCHgIEUCfHIEUHfKIYEOKgP;SIOShRIEULfSIOSeTHIEUTHgIKEUTmP;SIOSa-KAPYEOUNPIEUPnPIEUPmHIEUPHa-PIEUPfSIOSeTHIEUTHoIEUPa-CHIEUCHgI
EUCfHIEUHfMIEUMfPHIEUPHhRIEULa-PHIEUPHnSIOSa-_KEUTl_KEUTmRIEULa-HIEUHfKAPYEOUNPIEUPmHIEUKHgIYEOKa-HIEUHfSIOSlMIEUMa-HIEUHfKIYE
OKgSIOSkNIEUNfP;SIOSgHIEUPHgIEUPa-HIEUHfPHIEUPHhSIOSe_KEUTmSIOSdS;GKIYEOKgSIOSjTHIEUTHgIKEUTa-HIEUHmYEOR(HIEUHa-HIEUHpSIEUNGoS
IOSa-CHIEUCHgIEUCfHIEUHfKAPYEOUNPIEUPmIYEOKgMIEUMfP;SIOSgIEUPfRIEULfTHIEUTHgIKEUTkS;GCIEUCfIEUNGfKIYEOKgMIEUMfNIEUNfPIEUPfRIEU
La-KHIEUKHnSIOSa-KIYEOKg_KEUTl_KEUTa-PIEUPmYESIEUNGnTHIEUTHgIKEUTa-CHIEUCHgIEUCfKIYEOKgPIEUPfRIEULfSIOSa-KIYEOKlTHIEUTHoYEOR(H
IEUHjSIEUNGa-HIEUHfKHIEUKHgIYEOKgMIEUMfP;SIOShSIOSdS;GKIYEOK+dUNGSE:G Aa-EUcObUcEbRAEAa-AbEaOcIbUhEaOa-EUcObUdUa-AbEaObUcObUeF
ILL*gIa-AaRAEAfEUcIbOa-IdUbYAa-OcEcEaOcObUeOa-EaOcOa-IdUbYAaEcEaOeEcSS;G&AEAkUa-AaEcEO-EUfI-IdUbYEaOfWAaEcEaOcIcYAa-ObUbYOdEcE
aOa-ObUbYAfIa-UdOa-AaEcEOcIbObYAaEcEOfUa-AaEcEaOcIbObUbYEaOq,TT* AaEbRAEAaEgCHIEUCHgIEUCfEaObUcHIEUHfIaEUNGfKAPYEOUNMIEUMfPHIE
UPHgIEUPfSS;GPIEUPrHIEUKHgIYEOKa-SIOSlMIEUMa-P;SIOSgIEUPfSIOSkNIEUNa-CIEUCfHIEUHfP;SIOShSIOSe_KEUTmOaEcP;SIOSgHIEUPHgIEUPa-CIE
UCfKIYEOKgSIOSa-KIYEOKg_KEUTlTHIEUTHgIKEUTmRIEULa-HIEUHfKIYEOKa-SIOSlMIEUMfP;SIOSgHIEUPHgIEUPa-SIOSkSIOSeTHIEUTHgIKEUTgYEOR(HI
EUHrSIOSa-CIEUCfKIYEOKgNIEUNfPIEUPf_KEUTkS;GCIEUCfHIEUHfIEUNGfKIYEOKgNIEUNfPIEUPfSIOSe_KEUTlTHIEUTHgIKEUTgUbWAaEcEaOcIcYAaEcEa
OaR(HIEUHjSIEUNGa-P;SIOShSIOSmIbOa-IbYAaEfUa-IbYEaOnS(G, DOT T:E M&KxZHOU NUM*) E<fFIVEdOUReN(Ee:EdSEV^eIXdT^cHIRTYeREEeW^TYeO
rIFI ROH(GYA D#dZ*Ok,TT* AbB~C~DAbDAdF~G~H~J~K>c(NA W~YAiL~M~NAbG~YAdP~RAbRAdS>dTAbTAdV~W~Y~ZAjM&K NA KH:NAjSAK(kSIGN H&BAHAYi
TAH)AeN~SSIkVOWEL AbEbIbObUuUNOO ,TT* AbB~D~G~H~IbK~L~M~NAbGAdP~R~S~T~UbW~YAjSIGN PAMUDPODnVOWEL? IbUsPPY P*S: RAIS(G :E H;D+b
RD DISKhTCH(G CHICKlR; ,TT* )EPHeYNdBETHeD)ETH-RESHlGIMELfHEaTHeKAPHeLAMEDHgMEMdNUNdPEcQOPHeSADHEdMEKHfH(eTAWcETHeWAWdYODHeZAY
NlNUMB* FIVEe:E=HUNDREDlT^cW^TYtEADPH:EfST:E=GRAVEY&D SYMBOLxR-NO-EVIL M:KEYpT DECORA_:kH;DSf%&ROWfRIBB:g_P : THE ,FTxVY AMP*
S;D ORNAM^TrRROW SHAFT WIDTH :E=H)FeTHIRDjTWO THIRDS+bST*ISKiB)LOT XhLACK CURV]DOWNW&DS ;D R<W&DS &ROW+eUPW&DS ;D R<W&DS &ROW+
jHE&Tg-FEATH*]NORTH EAST &ROWqR<W&DS &ROWqSOUTH EAST &ROW+gCHECK M&KhVR: SNOWFLAKEqIRC,=%CIRC, (SIDEnSTROKE ;D TWO DOTS.+f
D S)_REo:CAVE-PO(T]BLACK R<W&DS &ROW+mDASH]TRI;G,-HEAD]R<W&DS &ROW+mIVISI:?mOLL&?jUB, COMMA QUOTA_: M&K ORNAM^T+dTURN]COMMA QU
OTA_: M&K ORNAM^T+pWNW&DS &ROW %EQUILAT*) &ROWHEADvL&GE EQUILAT*) &ROWHEAD+wE< PO(T]BLACK ST&kP(WHEEL ST&nREC_L(E& BLACK ST&+e
SPOK]AST*ISKpTE&DROP-SPOK]PROPELL* AST*ISK+nQU)S?kXCLAMA_: M&K ORNAM^TiSYMBOLxFIVE PO(T]BLACK ST&sSPOK]AST*ISKtOUR B)LO:-SPOK]
AST*ISK+cGREEK CROSSlHE&T EXCLAMA_: M&K ORNAM^T+eORIZ:T) FILLp(T*ROB;G ORNAM^TuL&GE CIRC,kT( CROSSkEFT-PO(T(G ;G, BRACKET ORNA
M^TqQUOTA_: M&K ORNAM^T+nW&DS &ROW %EQUILAT*) &ROWHEADvL&GE EQUILAT*) &ROWHEAD+vIGATURE OP^ ET ORNAM^TyOW DOUB, COMMA QUOT
A_: M&K ORNAM^T+kS(G, COMMA QUOTA_: M&K ORNAM^T+l* R<-SHADOW]WHITE R<W&DS &ROW+rM(US?jUL_PLICA_: XqNORTH EAST &ROWfPO(T(G BUDd
V(E ,AFxWEST PO(T(G BUDdV(E ,AF+dOP^ C^TRE CROSSqUTL(]BLACK ST&sV) %OV) (SIDEvPLUS?jR<-PO(T(G ;G, BRACKET ORNAM^TqQUOTA_: M&
K ORNAM^T+nW&DS &ROW=%EQUILAT*) &ROWHEADvL&GE EQUILAT*) &ROWHEAD+wOUND-_PP]R<W&DS &ROW+dS)_REfNS-S*IF (T*ROB;G ORNAM^T+eCRIP
T LIGATURE ET ORNAM^T+a(G, COMMA QUOTA_: M&K ORNAM^T+dTURN]COMMA QUOTA_: M&K ORNAM^T+pX PO(T]BLACK ST&sSPOK]AST*ISKsOUTH EAS
T &ROWfPO(T(G BUDdV(E ,AFxWEST PO(T(G BUDdV(E ,AF+cP&K,hTE&DROP-SH;K]R<W&DS &ROWxPOK]AST*ISKiP(WHEEL AST*ISK+gRI;G,-HEAD]R<W&D
S &ROW+fWELVE PO(T]BLACK ST&kP(WHEEL ST&+cUPP* R<-SHADOW]WHITE R<W&DS &ROW+pW&DS &ROW %EQUILAT*) &ROWHEADvL&GE EQUILAT*) &ROWH
EAD+uV*_C) B&mWEDGE-TAI,D R<W&DS &ROW+cHITE CIRC,gDOWN-PO(T(G TRI;G,wSQU&ElIDE-HEAD]R<W&DS &ROW+gBREW ACC^T ATNAH HAFUKHmD&GAe
EHIeETNAHTAhG*ESH=MUQDAMkSHAYIMjILUYeMAHAPAKHh*KHA=KEFULAmUNAHfO,dPASHTAeZ*fQADMAdRNEY P&AlREVIAfSEGOLeH)SHE,TkTELISHA GEDOLAg
QET;AmVIReIPEHAgY*AH B^ YOMOm_VfZAQEF GADOLfQAT;jRQAe(ORm,TT* )EF=%MAPIQfPATAHfQAMATSoT*NA_VE AY(ePLUS?uY(eBET=%DAGESHgRAFEnD)
ET=%DAGESHrF() KAF=%DAGESHpMEMdNUNdPE=%DAGESHoTSADIlGIMEL=%DAGESHrHE=%MAPIQlTdKAF=%DAGESHgRAFEnLAMED=%DAGESHrMEM=%DAGESHpNUN=%
DAGESHpPE=%DAGESHgRAFEmQOF=%DAGESHpRESH=%DAGESHqSAMEKH=%DAGESHrH(=%DAGESH=;D SH( DOTh( DOTsSH( DOTh( DOTrTAV=%DAGESHoET=%DAGES
HoSADI=%DAGESHrVAV=%DAGESHgHOLAMoWIDE )EFeD)ETfF() MEMjHEcKAFdLAMEDfRESHeTAViYOD=%DAGESHgHIRIQoZAY(=%DAGESHxIGATURE )EF LAMEDk
YIDDISH DOUB, VAVdYODkVAV YODhYOD YOD PATAH+eM&K LOW* DOTjMASORA CIRC,nUPP* DOToPO(T DAGESH OR MAPIQpHATAF PATAHfQAMATSgSEGOLk
IRIQeOLAM=HAS* FOR VAVtJUDEO-SP;ISH V&IKAuMETEGfPATAHfQAMATS=QAT;lUBUTSgRAFEeSEGOLeHEVAd( DOTh( DOThTS*EkUNCTUA_: G*ESHdSHAYIM
jMAQAFfNUN HAFUKHAlPASEQfSOF PASUQvYOD TRI;G,rDGEHOGgLICOPT*hLSCHREIB* PAUSE SYMBOLxM SYMBOLhET %WHITE CROSSvNTAIG;A ,TT* A-1b
2b3bWOeE-1b2b3b4b5b6dHA-1a0b1c2b3b4b5b6b7b8b9dE-1b2b3b4b5b6b7dI-1b2b3b4b5b6b7dO-1b2b3b4b5b6b7b8dU-1b2b3eI-1b2b3b4dKA-1a0b1c2b3
b4b5b6b7b8b9bKEeE-1b2b3b4b5b6dI-1b2b3b4b5b6b7b8dO-1b2b3bKIeU-1b2b3b4b5b6b7eMA-1b2b3b4b5b6b7dE-1b2bMAeI-1b2b3b4b5b6b7dO-1b2b3b4
b5b6dU-1b2b3b4eN-MU-MO-1b2iA-1b2b3b4b5b6b7b8b9dE-1b2b3b4b5b6bKOeI-1b2b3b4b5b6b7bTEeO-1b2b3b4b5dU-1b2b3eO-1b2b3dRA-1b2b3b4dE-1b
2b3b4dI-1b2b3b4b5b6b7dO-1b2b3b4b5b6dU-1b2b3b4b5b6eSA-1b2b3b4b5b6b7b8dE-1b2b3b4b5dI-1b2b3b4b5b6dO-1b2b3b4b5b6b7dU-1b2b3b4b5b6b7
b8eTA-1b2b3b4dE-1b2b3b4b5b6b7b8b9dI-1b2b3b4b5b6b7dO-1b2b3b4b5b6bRAeU-1b2b3b4bTOfU-1b2b3b4b5dWA-1b2b3b4b5dE-1b2b3b4dI-1b2b3b4b5
dO-1b2b3b4b5b6b7eYA-1b2b3b4b5bYOeO-1b2b3b4b5b6dU-1b2b3b4uRBbMI_; C:JUGATE MATRIXyXAGRAM FOR ABUND;CEiFT* COMP,_:pPPROACHiBEFOR
E COMP,_:qIT(G THROUGHnREAKTHROUGHmCOM(G TO MEETmNFLICTfTEMPLA_:nD&K^(G OF THE L<vECREASEgLIV*;CEjVELOPM^TkIFFICULTY AT THE BE
G(N(GzSP*SI:jURA_:i^THUSIASMkFELLOWSHIPjOLLOW(GjGATH*(G TOGETH*rRACEdEAT POSSESSI:iW*eREP:D*;CEnTAM(GmHOLD(G TOGETH*q(CREASEgF
LU^CEhN* TRUTHiOC^CEjLIMITA_:kMODESTYfUTH CORN*SnOBSTRUC_:kPPOSI_:hRESSI:kPEACEeROGRESShUSH(G UPW&DoRETREATeURNeVOLU_:kSM)L PR
EP:D*;CEnTAM(GlPLITT(G AP&ToT;DS_LLkTHE ABYSM) WAT*mRMYcOUS(G THUND*qCAULDR:hL(G(G FIREmREA_VE HEAV^pFAMILYgG^T, W(DlJOYOUS LA
KElKEEP(G S_LL MOUNTA(wM&RY(G MAID^pRECEP_VE E&THpW;D**hELLhREAD(GiWAIT(GgORK : THE DECAYEDtYOUTHFUL FOLLY+aIBISCUSgGH BR<NES
S SYMBOLrOCTET PRESETmVOLTAGE?n-HEE,D SHOElSPE]TRA(=%BUL,T NOSE+fK(G BOOTjNDU TEMP,kPPOPOTAMUSkRAG;A DIGRAPH YORImIT*A_: M&Ko,
TT* AaRCHAIC WUcYEkBAbEbIbObUcDAbEbIbObUcEbGAbEbIbObUcHAbEbIbObUcIbKAbEbIbObUcMAbEbIbObUcNaAbEbIbObUcObPAbEbIbObUcRAbEbIbObUcS
AbEbIbM)L AbEbIbKAbEcObTUcUbWAbEbIbOcYAbObUhObUcTAbEbIbObUcUbVUcWAbEbIbOcYAbObUcZAbEbIbObUjVOIC]IT*A_: M&K+cSTORIC SITEmOCHOd,
bLOW QUILT SQU&E ORNAM^T=( BLACK SQU&E+qMOTHE_CiNEY POTeBEEgOKcPbRIZ:T) B&cLACK HEXAG:hOCTAG:nELLIPSISiL(E EXT^SI:oM)E %STROK
E?v:E E<H BLOCK-1358e2b3b4b5b6b7sSC; L(E-1b3b7b9lTAB KEYeULA_:=SETd%JUS_FICA_:+cRAFFIC L<vSE=FACEeRAC(GkSPIT)gT BEV*AGEiDOGdPE
PP*gSPR(GSiELdURGLASS=%FLOW(G S;DySE=BUILD(GaSj%G&D^qRYVNIA?lTaJbScUGG(G FACEkNDR]PO(TS SYMBOLtSH]FACEjTcYGIEAePH^=BUL,Tg%DIA*
ESISp-M(USgA_: PO(ToODIASTO,kST*ESIS SYMBOLrI LOVE YOU H;D?tCE CREAMeUBEeHOCKEY S_CK ;D PUCKvSKATEiD^_C) TO=;D SL;T]P&),Lx%DO
T.sFICA_: C&DqOGRAPHIC ;NOTA_: BOTTOM M&KlE&TH M&KkFIRST M&KjOUR M&KfTH M&KlHEAV^ M&KlL(K(G M&KmM; M&KhIDD, M&Kl:E M&KiREV*S
E M&KmSEC:D M&KlTHIRD M&KiREE M&KjOP M&KhWO M&KtCLOS(G M&KlOMMAfDEP&T(G T:E M&KrSCRIP_: CH&ACT*. TO |fMIDD, ;D |zFULL SURROUND
n,FT TO MIDD, ;D R<qR<nOV*LAIDiSURROUND FROM.f|f,FTdOW* ,FTkUPP* ,FTeR<+v^T*(G T:E M&KsFULL STOPjH)F FILL SPACEpIT*A_: M&Ko,VE
L T:E M&KpNUMB* Z*OlRIS(G T:E M&KqSPACEfT)LY M&K FIVEdOURe:EdTHREEeWOnE,GRAPH L(E FE]SEP&ATOR SYMBOL+aSYMBOL FOR APRILeUGUSTgD
AY E<aE^h,V^gFIFTE^fVEdOURaTE^iN(EaTE^i:EdSEV^aTE^iIXaTE^hT^cHIRTE^dYa-:EiREEeWELVEdNTYa-E<fFIVEdOUReN(Ee:EdSEV^eIXdTHREEeWOiO
gECEMB*iFEBRU&YiHOUR E<aE^h,V^gFIFTE^fVEdOURaTE^iN(EaTE^i:EdSEV^aTE^iIXaTE^hT^cHIRTE^gREEeWELVEdNTYa-FOURe:EdTHREEeWOiOdZ*OjJ;
U&YgULYcNEeM&CHdYdNOVEMB*iOCTOB*hSEPTEMB*+eV&IA_: (DICATOR+eMAGE OF=OR APPROXIMATELY EQU) TO+gPa*I) &AMAIC ,TT* )EPHeY(eBETHe
D)ETHgGIMELfHEaTHeKAPHeLAMEDHgMEMdNUNdPEcQOPHeRESHeSADHEdMEKHfH(eTAWcETHeWAWdYODHeZAY(mNUMB* :E=HUNDREDhTHOUS;DmT^=THOUS;DlHRE
EeW^TYeOkSEC_:?+cNBOX TRAYiCOM(G ^VELOPEmP,TE (F(ITYqREASE F:T SIZE SYMBOLrS AShM^ThDaEX=PO(T(G AT THE VIEW*zI; RUPEE?nC SIYA
Q )T*NATE LAKH M&KtFRAC_: :E H)FeQU&T*lTHREE QU&T*SxLAKH M&KjNUMB* )T*NATE :EdT^ THOUS;DlWOnE<=HUNDREDhTHOUS;DjY=THOUS;DpFIFT
Y=THOUS;DmVE=HUNDREDhTHOUS;DmORTY=THOUS;DmUR=HUNDREDhTHOUS;DnK&ORa;hLAKHa;gN(E=HUNDREDhTHOUS;DjTY=THOUS;Dp:E=HUNDREDhTHOUS;DmP
REFIX]E<fFIVEdOUReN(Ee:EdSEV^eIXdTHREEeWOmSEV^=HUNDREDhTHOUS;DjTY=THOUS;DpIX=HUNDREDhTHOUS;DjTY=THOUS;DoT^=THOUS;DlHIRTY=THOU
S;DnREE=HUNDREDhTHOUS;DnW^TY=THOUS;DnO=HUNDREDhTHOUS;DtPLACEHOLD*lRUPEE M&KuF(ITY=NEGAT]%V*_C) B&+fORMA_: DESK P*S:lSEP&ATOR F
OURe:EdTHREEeWOmOURCEqHIBIT &ABIC$ SHAP(GtSYMMETRIC SWAPP(GyPUT SYMBOL FOR LAT( CAPIT) ,TT*Sp,TT*ShSM)L ,TT*StNUMB*ShSYMBOLSwS
CRIP_:) PAHLAVI ,TT* )EPHfBETHeD)ETHgGIMELfHEaTHeKAPHeLAMEDHgMEM-QOPHiNUNdPEcSADHEdMEKHfH(eTAWcETHeWAW-AY(-RESHnYODHeZAY(mNUM
B* FOURe:E=HUNDREDhTHOUS;DmT^cHREEeW^TYeOqRTHI; ,TT* )EPHeY(eBETHeD)ETHgGIMELfHEaTHeKAPHeLAMEDHgMEMdNUNdPEcQOPHeRESHeSADHEdMEK
HfH(eTAWcETHeWAWdYODHeZAY(mNUMB* FOURe:E=HUNDREDhTHOUS;DmT^cHREEeW^TYeO+e*_: SYMBOLoTEGR)=&OUND A PO(T OP*ATORwV*AGE %SLASHsEX
T^SI:j%DOUB, STROKEn(T*SEC_:m,FTW&DS &ROW %HOOKzOV*B&h_MES?kUND*B&gI:pRC)ATEgIOR PRODUCTlL(E& ;NOTA_: ;CHORgSEP&ATORjT*M(ATOR+
bOCK]FEM)E ;D M)E?+bROB;GgSEC_:a. B&. UNI:pUNI:lBESIDE ;D JO(]%(T*SEC_:+j%DOTdLOGIC) ;DlOV*B&xV*SE BUL,TgCHECK M&Kf* BO&D FILL
sDOWNW&DS &ROW %_P ,FTW&DS+iMEDIUM SHADEmWHITE CIRC,pT]EXCLAMA_: M&Kq(T*ROB;GlLAZY SfOW KAVYKA=%KAVYKA.+cOHM?iP^TAGRAMjQUE
S_: M&KnUND*_EoISIB, PLUSeSEP&ATORj_MESoZAKAYA L;T*NpJACK-O-L;T*NmP;ESE B;K SYMBOLlCAST,gDOLLSfGOBL(g(DUSTRI) ST;D&D SYMBOL+aO
GREePOST OFFICElSYMBOL FOR BEG(N*+aRbV;ESE C:S:;T? CAKRAfK*ETfP^GK)wD#dZ*Ok,FT R*^GG;mTT* AaIcBA=MURDAiCA=MURDAiDA=MAHAPR;AlD
A=MAHAPR;AnEbGA=MURDAiH~I=KAWIfIcJA=MAHAPR;AmKA=MURDAfSASAKiL~M~NA=MURDAhGA=,,T=RASWADIqYA=MURDAjObPA=C*EKfMURDAiRA=AGUNGiSA=M
AHAPR;AiURDAiTA=MURDAhTA=MAHAPR;AnUbW~YAjPADA ADEG=ADEGiNDAPfIS^-IS^jL(GSAfUHURdNGSIgMADYAfP;GKATgISE,Hh_RTA TUMETESnW(DUiNGK:
dR;GKEPlR< R*^GG;pSIGN CECAK=TELUkLAY&fP;Y;GGAjWIGNY;mTURN]PADA PISE,HtVOWEL? DIRGA MUREkPEPETfSUKU=M^DUTlT)(GeRUNGfOL:GgWULU=
MELIK+dE;SeIGSAW PUZZ, PIECEsO(cYS_CKhUGGL(GgNOcPIT*hKAABAdITHI ABBREVIA_:?rD;DAeOUB, D;DAfSEC_: M&Kt^UM*A_:?q,TT* AaAbIbUcB>d
C>dDAbDAbDHAdHAdHAdEbG>dH~IaIcJ>dK>dL~M~NAbG~N~YAdObP>dR>dS>cSAdT>cT>eUaUcV~YAjNUMB*?a.rSEC_: M&KlIGN ;USV&AiC;DRAB(DUlNUKTAfV
IRAMAeS&GAmVOWEL? AAbIbUcEbIaIcObUaUcVOC)IC RzNG&OOeXI RADIC) AGA(eNDcRRIVEdOWeXEdBADG*eMBOOfE;dIGbRDcTT*fLACKdOODdUEdOATcDYcL
T OF CLOTHlNEcWcR;CHeIST,fUSHfC&TcULDR:gVEdHILDeITYdL;bWcIFFdOTHESgOLORdMP&EfRPSEeV*dWdDEATHd*dIPP*eSHbT(GUISHjV(A_:jO NOTeGbO
RcTaT]CLIFFfT^TjUB, XgWN BOXhRAG:eUMcYdE&aTHdTc<eMBROID*YjNCLOSUREhT*eV^a(GgYEdFACEcNGcTH*fEATH*gIELDdGHTdREcSHdLUTEdYcOOTdRAG
R;TgOGdURdGATEdHOSTeO=SLOWLYhLDdRA(cSSfHAIRcLB*DeF TREE TRUNKnNDdEADbRTdMPdID(G ^CLOSUREpOOKcRNbSEfICEcNCHcSECTgJADEcRdKNIFEfL
ACKcMEdEAFbTH*fEKcGSdIDbFEcNEd:G=STRIDElM;cEATcL:eIL,TeNIST*hO:cRN(GeT&eUNDbTA(fTHfNETcOSEcTdOLDcNEaSELFgP^ BOXgPOSEgPIGcLOWdO
W*eRIVATEfOFOUNDiRA(cPbTcEDcICEcGHT OP^ BOXmV*eOOFdUNdSACRIFICI) W(EoLTcYcCHOL&fRIPTfE)cC:DeEbLFdHEEPcLLdOOTcRT TAI,D BIRDkHRE
ADlICKNESSgLKdK(dLASHcVEdICEeM)LeNOUTeOUNDePE&cECHeIRITeO:dROUTfQU&EfT;DdEAMcPc:EcPaP(GhUNcWEETfTAB,dLLcNN],ATH*n^cIG*d,d:GUEe
OTHeRACKdEEcIPODfURB;dT,fWO=H;DSjUSEdV),YfILLAGEhW)K=^CLOSUREmT*eEAP:eSTdHEATdITEe(DbEdOM;dRKdRAPc:GfYELLOWsNADA AI ,NGTH M&Ko
D#dZ*Ok,NGTH M&KjTT* AaAbIbUcB>dC>dDAbD>dHAdEaEcF~G>dH~IaIcJ>dK>dLAbLAbLAeM~NAaKA&A POLLUmG~N~YAdOaOcP>dRAbRAdS>cSAdT>cT>eUaUc
VAbOC)IC LaLcRaRkYAjSIGN ;USV&AhVAGRAHAiC;DRAB(DUlJIHVAMULIYAlNUKTAfSIDDHAMgPAC(G C;DRAB(DUtUPADHM;IYAlVIRAMAeS&GAmVOWEL? AAbI
bUcEaEcIaIcOaOcUaUcVOC)IC LaLcRaR+bTAK;A DIGRAPH KOTOmIT*A_: M&Ko,TT* AaRCHAIC EbWUcYEbIkBAbEbIbObUcDAbEbIbObUcEbGAbEbIbObUcHA
bEbIbObUcIbKAbEbIbObUcMAbEbIaNN; NAS)IZ]T:E-1b2b3b4b5b7b8qT:E-2b3b4b5b7b8mObUcNaAbEbIbObUcObPAbEbIbObUcRAbEbIbObUcSAbEbIbM)L A
bEbHAbEbIbObUcIbKAbEbUcMUcNaUcObRAbEbIbObUcSIbUcTObUcUbWAbEbIbOcYAbObUhObUcTAbEbIbObUcUbVAbEbIbObUcWAbEbIbOcYAbObUcZAbEbIbObUj
MIDD, DOTkVOIC]IT*A_: M&Kw-HIRAG;A DOUB, HYPH^nPROL:G]SOUND M&KuSEMI-VOIC]SOUND M&KwVOIC]SOUND M&K+hYAH LI D#dZ*Ok,TT* AbB~C~
D~G~HAbTAdIbK>dL~M~NAbG~YAdOEbOcP>dR~S>dT>dV~W~Y~ZAjSIGN CWIdSHYAjT:E C)YA=PLOPHUmPLOPHUlVOWEL EaEcObUaEqELV(?jYaBO&D=;D MOUSE
pCAP T^jH&OSHTHI DIGIT FOURe:EdTHREEeWOjFRAC_: :E H)Fr,TT* AbB>dC>dDAbD>dHAdG>dH~J~K>cKAdL~M~NAbN~YAdP>dR~S>cSAdT>cT>cT>fV>dY~
ZAjNUMB* :E HUNDREDhTHOUS;DmT^cW^TYnPUNCTUA_: CIRC,fRESC^T B&mD;DAeOTbUB, D;DAmL(ESeOTUSfM;G)AMiSM)L CIRC,ySIGN ;USV&AiB&.jCAU
DAfDOT |hUB, R(G |rVIS&GAmVIRAMAfOWEL ,NGTH M&KlSIGN EbIbObUbVOC)IC R+dIT; SM)L SCRIPT CH&ACT*-18B0!b@c1!b@c2!b@c3!b@c4!b@c5!
b@c6!b@c7!b@c8!b@c9!b@cA!b@cB!b@cC!b@cD!b@cE!b@cF!b@dC0!b@c1!b@c2!b@c3!b@c4!b@c5!b@c6!b@c7!b@c8!b@c9!b@cA!b@cB!b@cC!b@cD0b1b2b
3b4b5pFILL*yM* CURR^CY SYMBOL RIELuD#dZ*Ok(DEP^D^T VOWEL LYaYdQAAbIbQbUcEbIaIcOO TYPE :EdTWOlUaKbUaVeRYaYv,TT* B~C>bOcOcDAbOc
H~K>bOcOcLAbOcMOcNGOcNOcObYOdPHAbOcOcQ~ROcS>cSOdT>bOcObTHAbOeVOcYOjSIGN AHSDAeTTHAC;hVAKRAHAS;YAnB;TOCeRIYOOS;iTHAMASATjEYY)gC
AMNUC PII KUUHoO^GfKAKABATgH;dOOMUUTh,K TOOhMUUSIKATO;lNIKAHIThPHNAEK MU;lREAHMUKgOBATfSAMYOK S;NYAnTO;DAKHIATkRIISAPhVIRIAMgY
UUK)EAP(TUrYMBOL BEI KOETeROCgU: KOETeROCiDAP KOETeROCe-BEI KOETeROCgU: KOETeROCiMUOY KOETeROCiPII KOETeROCgRAM KOETeROCm,K AT
TAK BEIcU:eMUOYePIIcRAMa-BEIcU:eMUOYePIIiS:nMUOY KOETeROCiPATHAMASATjII KOETeROCgRAM KOETeROCe-BEI KOETeROCgU: KOETeROCiMUOY K
OETeROCiPII KOETeROCmTUTEYASATqVOWEL (H*^T AAbQlSIGN AAbEbIbUcEbIaEbIcOEbOcUaAbUcYaAbYrOJKI ABBREVIA_:?rD;DAeOUB, D;DAfSE
C_: M&Kt,TT* AaAbIbUcBAbB~HAdC>dDAbDAbD~HAdHAdEbGAbG~HAdH~IbJAbJAdK>dLAbLAdM~NAbG~N~YAdObP>dR~S~T>cT>eUbV~YAjSEC_: M&KlIGN ;US
V&AiNUKTAfSHADDAfUKUNfVIRAMAlVOWEL? AAbIbUcEbIaIcObUmWORD SEP&ATORtUDAWADI D#dZ*Ok,TT* AaAbIbUcBAbB~HAdC>dDAbDAbD~HAdHAdEbGAb
G~HAdH~IaIcJ>cJAdK>dL~M~NAbG~N~YAdObP>dRAbRAdS>dT>cT>eUaUcV~YAjSIGN ;USV&AiNUKTAfVIRAMAlVOWEL? AAbIbUcEbIaIcObUaUwIM:OeP?gSS=
M&Kf(G CAT FACE %CLOS]EYESzFACE=%CLOS]EYESlSMIL(G EYES+cTEcWIFRUITiNEEL(G P*S:nOTdO)AdRE; ST;D&D SYMBOLvR:OSgL B B& SYMBOLnA
B COATfELdCROSSE S_CK ;D B)LvDD*dY BEET,jNGUAGE TAGkO C;CELLA_: M&KrD#dZ*OkELLIPSISiHO MOcNOfKO LAf,TT* BOcCOcDOcFO FAYc:dSUNG
eTAMgHO SUNGeTAMgKHMU GOcNYOgO SUNGeTAMgOcLO=L(GdOOThMOcNGOcObYOdObP)I BHAdCHAdDD>dHAdGHAdJHAdLLAdNN~YAdTT>iHO SUNGeTAMgOcROc
S;SKRIT SH~SAlO SUNGeTAMgTHO SUNGeTAMgOcWOcYOjNIGGAHITAjSEMIVOWEL? LOcNYOrIGN P)I VIRAMAqT:E MAI CATAWAgEKcTHOcIlVOWEL? AaAbIb
MbYcEaIcIaIcMAI K;c:hObUaUcYaYpRGE BLUE CIRC,gDIAM:DhSQU&EkROWN CIRC,gSQU&EmCIRC,gDOWN TACKjGRE^ CIRC,gSQU&Em,FT TRI;G, OP*ATO
Rw:E DOT OV* TWO DOTS PUNCTUA_:+dR(G OV* TWO R(GS PUNCTUA_:+iR;GE CIRC,gDIAM:DhSQU&EnPURP, CIRC,gSQU&EnR]CIRC,gSQU&EkTRIP, V*_
C) B& OP*ATOR+bWO DOTS OV* :E DOT PUNCTUA_:+dR(GS OV* :E R(G PUNCTUA_:+jUP TACKhYELLOW CIRC,gSQU&EoR TH;=OR EQU) TOuI?hST QU&
T* MO:=SYMBOLg%FACEzT( CAPIT) ,TT* A=%ACUTEfBREVE=;D ACUTEfDOT |jGRAVEfHOOK.k_LDEpC&:eIRCUMF,X=;D ACUTEfDOT |jGRAVEfHOOK.k_LDE
uDIA*ESIS=;D MACR:tOT.=;D MACR:q|hUB, GRAVEmGRAVEfHOOK.k(V*T]BREVEoMACR:gOG:EKgR(G.=;D ACUTEp|kSTROKEg_LDElAbE=%ACUTEfMACR:nFR
IC; DiLPHAeNGLIC;A WkObUbV=%HORIZ:T) B&vYcB=%DOT.f|jFLOURISHiHOOKeL(E |kSTROKEgTOPB&mETAdROK^ LiC=%ACUTEfB&dC&:eEDILLA=;D ACUT
EqIRCUMF,XkDOT.jHOOKeP)AT) HOOKmSTROKEmHIcLOS](SUL& Gp:cUATRILLO=%COMMAuD=%C&:eEDILLAgIRCUMF,X |qDOT.f|jHOOKeL(E |kSHORT STROK
E OV*LAYtM)L ,TT* Z=%C&:yTROKEgTOPB&mZ=%C&:nE=%ACUTEfBREVEfC&:eEDILLA=;D BREVEqIRCUMF,X=;D ACUTEfDOT |jGRAVEfHOOK.k_LDEj|qDIA*
ESISiOT.f|hUB, GRAVEmGRAVEfHOOK.k(V*T]BREVEoMACR:=;D ACUTEfGRAVEqOG:EKgSTROKEg_LDE=|rGYPTOLOGIC) A(c,FrNGcSHcTaHcZH=REV*SEDi%
C&:oF=%DOT.jHOOKeSTROKEnG=%ACUTEfBREVEfC&:eEDILLAgIRCUMF,XkDOT.jHOOKeMACR:gOBLIQUE STROKEoSTROKEmAMMAeH~LOTT) AbIbSTOPeUjH=%BR
EVE |lC&:eEDILLAgIRCUMF,XkDESC^D*iIA*ESISiOT.f|jHOOKeSTROKEm)F Hf^GdWAIRfI=%ACUTEfBREVEfC&:eIRCUMF,XkDIA*ESIS=;D ACUTEsOT.f|hU
B, GRAVEmGRAVEfHOOK.k(V*T]BREVEoMACR:gOG:EKgSTROKEg_LDE=|rNSUL& DbFbGbRbSbTiOTAdScJ=%CIRCUMF,XjROSSED-TAILmSTROKEnK=%ACUTEfC&:
eEDILLAhDESC^D*iIAG:) STROKEoOT |jHOOKeL(E |kOBLIQUE STROKEoSTROKE=;D DIAG:) STROKE+hL=%ACUTEfB&cELTeC&:eEDILLAgIRCUMF,X |qDO
T |=;D MACR:sUB, B&kHIGH STROKElL(E |kMIDD, DOTd_LDEmSM)L ,TT* JnTROKEmJcM=%ACUTEfDOT.f|jHOOKkIDD, SCOTS Si-WELSH LLcVoN=%ACUT
EfC&:eEDILLAgIRCUMF,X |qDESC^D*iOT.f|jGRAVEf,FT HOOKi(E |j:G R< ,GoOBLIQUE STROKEoSM)L ,TT* Jo_LDElJcO=%ACUTEfBREVEfC&:eIRCUM
F,X=;D ACUTEfDOT |jGRAVEfHOOK.k_LDEuDIA*ESIS=;D MACR:tOT.=;D MACR:q|hUB, ACUTEfGRAVEmGRAVEfHOOK.iRN=;D ACUTEfDOT |jGRAVEfHOOK.
k_LDEo(V*T]BREVEoL:G STROKE OV*LAYrOPeMACR:=;D ACUTEfGRAVEpIDD, _LDEmOG:EK=;D MACR:rSTROKE=;D ACUTEq_LDE=;D ACUTEfDIA*ESISjMAC
R:wIbLD POLISH OlMEGAeObP^ EbOfUcP=%ACUTEfDOT.jFLOURISHiHOOKeSQUIRREL TAILmTROKE=THROUGH DESC^D*+fQ=%DIAG:) STROKEpSTROKE THRO
UGH DESC^D*+fR=ROTUNDAh%ACUTEfC&:eEDILLAhDOT.f|=;D MACR:sUB, GRAVEm(V*T]BREVEoL(E |kOBLIQUE STROKEoSTROKEgTAILkEV*S]C %DOTkEb
H)F HgOP^ EoUM ROTUNDAlS=%ACUTE=;D DOT.tC&:=;D DOT.sEDILLAgIRCUMF,XjOMMA |lDOT.f|=;D DOT.xHOOKeOBLIQUE STROKEoSHORT STROKE OV*
LAYtWASH TAILq)_LLOhCHWAdRIPT GhH&P SgIGMOID SiM)L CAPIT) IjQ %HOOK TAILwT=%C&:eEDILLAgIRCUMF,X |pOMMA |lDIAG:) STROKEoOT.f|jH
OOKeL(E |kRETROF,X HOOKoSTROKEmHORN=%STROKE=THROUGH DESC^D*+i:E FIVEeSIXdTWOhRESILLOhURN]AaLPHAfHb(SUL& GjKbLbMbTbVhZcU=B&d%AC
UTEfBREVEfC&:eIRCUMF,X=|qDIA*ESIS=;D ACUTEfC&:fGRAVEfMACR:k|oOT |hUB, ACUTEfGRAVEmGRAVEfHOOK.iRN=;D ACUTEfDOT |jGRAVEfHOOK.k_L
DEo(V*T]BREVEoMACR:=;D DIA*ESISuOG:EKgR(G.kSTROKEg_LDE=;D ACUTEj|rPSIL:hV=%DIAG:) STROKEoOT |jHOOKe_LDEl^DdISIGOTHIC ZlOLAPU
K AEcOEcUEjYcW=%ACUTEfCIRCUMF,XkDIA*ESISiOT.f|jGRAVEfHOOKkYNNeX=%DIA*ESISiOT.qY=%ACUTEfCIRCUMF,XkDIA*ESISiOT.f|jGRAVEfHOOKa.kL
OOPeMACR:gSTROKEg_LDElOGHeZ=%ACUTEfC&:eIRCUMF,XkDESC^D*iOT.f|jHOOKeL(E |kP)AT) HOOKmSTROKEfWASH TAILxIGATURE IJcOEsROSSfEPIGRA
PHIC ,TT* &CHAIC MjI L:GAgNV*T]MkREV*S]FbPkSIDEWAYS I+c,TT* A(cLVEOL& CLICKoBID^T) P*CUSSIVErLABI) CLICKfP*CUSSIVEtD^T) CLICKm
GLOTT) STOP=%STROKEy(V*T]GLOTT) STOP=%CURLeSTROKE+hLAT*) CLICKnPH&YNGE) VOIC]FRICA_VE+bRETROF,X CLICK=%RETROF,X HOOK+hV*S]ES
H LOOPiGLOTT) STOP %STROKE+hS(OLOGIC) DOToM)L CAPIT) AaEcBa&R]BiCbDbEaTHcZHdFbG=%HOOKlHbIaNV*T]RkJbKbL=%BELTeSTROKEnMbNbOaEb
P^ OfUcPbQbR=%R< ,GpEV*S]NbRjUMdSbTaURN]EbGbKbMbRiUbVbWbYbZoTRETCH]C=%CURLvTWO %STROKEpVOIC]L&YNGE) SPIR;TyWYNNeYRjSM)L CAPI
T) ,TT* I %STROKEnU %STROKE+c,TT* A=REV*SED-SCHWAo%ACUTEfBREVE=;D ACUTEfDOT |jGRAVEfHOOK.k_LDEpC&:eIRCUMF,X=;D ACUTEfDOT |jGRA
VEfHOOK.k_LDEuDIA*ESIS=;D MACR:tOT.=;D MACR:q|hUB, GRAVEmGRAVEfHOOK.k(V*T]BREVEoMACR:gOG:EKgRETROF,X HOOKn< H)F R(GnNG.=;D ACU
TEp|kSTROKEg_LDElAbE=%ACUTEfMACR:nLPHA=%RETROF,X HOOKyNGLIC;A WkObUbV=%HORIZ:T) B&vYcB=%DOT.f|jFLOURISHiHOOKeL(E |kMIDD, _LDEm
P)AT) HOOKmSTROKEgTOPB&m&R])PHAfEbOgSEL(E ESHlETAdLACK,TT* EbO=%STROKEyOTTOM H)F OmROK^ LiC=%ACUTEfB&dC&:eEDILLA=;D ACUTEqIRCU
MF,XjURLeDOT.jHOOKeP)AT) HOOKmRETROF,X HOOKoSTROKEmHI=%LOW ,FT S*IFkR< R(GwLOS](SUL& GjOMEGAeP^ EgREV*S]OP^ Ev:cUATRILLO=%COMM
AuD=%C&:eEDILLAgIRCUMF,X |pURLeDOT.f|jHOOK=;D TAILnL(E |kMIDD, _LDEmP)AT) HOOKmSHORT STROKE OV*LAYtTROKEgTAILdOPB&mB DIGRAPHjE
LTAdZH DIGRAPH=%P)AT) HOOKmRETROF,X HOOK+fOT,SS IbJ=%STROKE=;D HOOK+cUB, R=%CROSSED-TAILtTHORNfWYNNkUMcZ=DIGRAPH=%CURLeRETROF,
X HOOK+b%C&:nE=%ACUTEfBREVEfC&:eEDILLA=;D BREVEqIRCUMF,X=;D ACUTEfDOT |jGRAVEfHOOK.k_LDEj|qDIA*ESISiOT.f|hUB, GRAVEmFLOURISHiG
RAVEfHOOK.k(V*T]BREVEoMACR:=;D ACUTEfGRAVEqNOTCHfOG:EKgRETROF,X HOOKoSTROKEg_LDE=|rGYPTOLOGIC) A(c,FrNG=%CROSSED-TAILmP)AT) HO
OKuSH=%CURLeDOUB, B&=;D CURLtP)AT) HOOKmRETROF,X HOOKwTaHcZH=REV*SEDi%C&:eURLeP)AT) HOOKmRETROF,X HOOKoTAILnF=%DOT.jHOOKeMID
D, _LDEmP)AT) HOOKmSTROKEm^G DIGRAPH=%TRILLxG=%ACUTEfBREVEfC&:eEDILLAgIRCUMF,XkDOT.jHOOKeMACR:gOBLIQUE STROKEoP)AT) HOOKmSTROK
EmAMMAeH~LOTT) AbIbSTOPeUjH=%BREVE |lC&:eEDILLAgIRCUMF,XkDESC^D*iIA*ESISiOT.f|jHOOKeL(E |kP)AT) HOOKmSTROKEm)F Hf^G=%HOOKnVc
I=%ACUTEfBREVEfC&:eIRCUMF,XkDIA*ESIS=;D ACUTEsOT |hUB, GRAVEmGRAVEfHOOK.k(V*T]BREVEoMACR:gOG:EKgRETROF,X HOOKoSTROKE=;D RETRO
F,X HOOKz_LDE=|rNSUL& DbFbGbRbSbThV*T])PHAfOEkOTA=%STROKEnIFI]EjScJ=%C&:eIRCUMF,XjROSSED-TAILmSTROKEnK=%ACUTEfC&:eEDILLAhDESC^
D*iIAG:) STROKEoOT |jHOOKeL(E |kOBLIQUE STROKEoP)AT) HOOKmSTROKE=;D DIAG:) STROKE+gRAdL=%ACUTEfB&cELT=;D P)AT) HOOKvC&:eEDILLA
gIRCUMF,X |pURLeDOT |=;D MACR:sUB, B&dMIDD, _LDEtFISHHOOKiHIGH STROKEl(V*T]LAZY SpL(E |kMIDD, DOTdR(Ge_LDEmP)AT) HOOKmRETROF,
X HOOK=;D BELTxSTROKEmAMBDA %STROKEr^IS FfZH=%RETROF,X HOOKxJb:G S=%DIAG:) STROKEoOT.jHIGH STROKEwS DIGRAPHjUMcZ DIGRAPHkM=%AC
UTEfCROSSED-TAILmDOT.f|jHOOKeMIDD, _LDEmP)AT) HOOKsIDD, SCOTS Si-WELSH LLcVnUMdN=PRECED]BY APOSTROPHEw%ACUTEfC&:eEDILLAgIRCUM
F,X |pROSSED-TAILlURLeDESC^D*iOT.f|jGRAVEf,FT HOOKi(E |j:G R< ,GoMIDD, _LDEmOBLIQUE STROKEoP)AT) HOOKmRETROF,X HOOKo_LDElJbUMd
O=%ACUTEfBREVEfC&:eIRCUMF,X=;D ACUTEfDOT |jGRAVEfHOOK.k_LDEuDIA*ESIS=;D MACR:tOT.=;D MACR:q|hUB, ACUTEfGRAVEmGRAVEfHOOK.iRN=;
D ACUTEfDOT |jGRAVEfHOOK.k_LDEo(V*T]BREVEoL:G STROKE OV*LAYrOPcW R(G (SIDEpMACR:=;D ACUTEfGRAVEqOG:EK=;D MACR:rRETROF,X HOOKoS
TROKE=;D ACUTEq_LDE=;D ACUTEfDIA*ESISjMACR:wIbLD POLISH OlMEGAeObP^ E=%RETROF,X HOOKvO=%RETROF,X HOOKoSTROKEmEgUcP=%ACUTEfDOT.
jFLOURISHiHOOKeMIDD, _LDEmP)AT) HOOKmSQUIRREL TAILmTROKE=THROUGH DESC^D*+eHIdQ=%DIAG:) STROKEpHOOK=TAILjSTROKE THROUGH DESC^
D*+eP DIGRAPHkR=ROTUNDAh%ACUTEfC&:eEDILLAgROSSED-TAILmDOT.f|=;D MACR:sUB, GRAVEmFISHHOOK=;D MIDD, _LDEmP)AT) HOOKz(V*T]BREVEo
L(E |j:G ,GiMIDD, _LDEmOBLIQUE STROKEoP)AT) HOOKmSTROKEgTAILfOUT H;D,pAMS HORNiEV*S]C=%DOTkEaNGdH)F HgKbOP^ E=%HOOKeRETROF,X H
OOK+aR %FISHHOOKpSCRIPT GqUM=ROTUNDAlS=%ACUTE=;D DOT.tC&:=;D DOT.sEDILLAgIRCUMF,XjOMMA |kURLeDOT.f|=;D DOT.xHOOKeMIDD, _LDEmOB
LIQUE STROKEoP)AT) HOOKmSHORT STROKE OV*LAYtWASH TAILqAKHA YAThL_LLOhCHWA=%HOOKeRETROF,X HOOKxRIPT G=%CROSSED-TAILtR=%R(GrH&
P SgIDEWAYS DIA*ESIZ]UnO=%STROKEmP^ OgTURN]MiUiGMOID SiQUAT REV*S]ESHr_RRUP RjT=%C&:eEDILLAgIRCUMF,X |pOMMA |kURLeDIA*ESISg
G:) STROKEoOT.f|jHOOK=;D RETROF,X HOOKxL(E |kMIDD, _LDEmP)AT) HOOKmRETROF,X HOOKoSTROKEmAIL,SS PHIlC DIGRAPH %CURLtESH DIGRAP
H=%P)AT) HOOKmRETROF,X HOOK+fH %STRIKETHROUGHtORN=%STROKE=THROUGH DESC^D*+i:E FIVEeSIXdTWOgP H)F OjRESILLOhS DIGRAPH=%RETROF,
X HOOK+dUMbRN]AaEbLPHAfDELTAfEbGbH=%FISHHOOK=;D TAILyIaNSUL& GjKbLbM=%L:G ,GpO OP^-O=%STROKEtE=%HORIZ:T) STROKErSTROKEnP^ Eg
R=%HOOKeL:G ,G=;D RETROF,X HOOK+bMIDD, _LDEmP)AT) HOOKmTAILlT=%CURLlUIcVbWbY=%BELTrZcU=B&=%SHORT R< ,Gy%ACUTEfBREVEfC&:eIRCUM
F,X=|qDIA*ESIS=;D ACUTEfC&:fGRAVEfMACR:k|oOT |hUB, ACUTEfGRAVEmGRAVEfHOOK.iRN=;D ACUTEfDOT |jGRAVEfHOOK.k_LDEo(V*T]BREVEo,FT H
OOKjMACR:=;D DIA*ESISuOG:EKgRETROF,X HOOKn(G.kSHORT R< ,GoTROKEg_LDE=;D ACUTEj|rEbIbMbObPSIL:=%STROKEtV=%CURLeDIAG:) STROKEoO
T |jHOOKeP)AT) HOOKmR< HOOKk_LDEl^DdISIGOTHIC ZlOLAPUK AEcOEcUEjYcW=%ACUTEfCIRCUMF,XkDIA*ESISiOT.f|jGRAVEfHOOKeR(G.rX=%DIA*ESI
SiOT.jL:G ,FT ,G=;D LOW R< R(Gs%S*IFwW R< R(GoP)AT) HOOKtY=%ACUTEfCIRCUMF,XkDIA*ESISiOT.f|jGRAVEfHOOKa.kLOOPeMACR:gR(G.kSHOR
T R< ,GoTROKEg_LDElOGHeZ=%ACUTEfC&:eIRCUMF,XjURLeDESC^D*iOT.f|jHOOKeL(E |kMIDD, _LDEmP)AT) HOOKmRETROF,X HOOKoSTROKEfWASH TAIL
xIGATURE FFaIbLcIbLcIJcL:G S TiOEcSTqUBSCRIPT SM)L ,TT* AbEbHbIbJbKbLbMbNbObPbRbSaCHWAfTbUbVbX+dEAF FLUTT*(G ( W(DtY GRE^jDG*e
FT ;D LOW* ;D R< TRI;GUL& THREE QU&T*S BLOCK+p:E E<H BLOCKwR< DOUB, TURNS_,qTACKdRI;GUL& H)F BLOCK+bUPP* ;D R< TRI;GUL& THRE
E QU&T*S BLOCK+p:E E<H BLOCKyG* BUBB,j, BRACKET=%DOTvRC ,SS-TH; BRACKETtROW %CIRC,D PLUSmSM)L CIRC,xB&B DOWN R< B&B DOWN H&PO:
mUP H&PO:+aUP R< B&B DOWN H&PO:mUP H&PO:+cLACK ,N_CUL& BRACKETsTORTOISE SHELL BRACKET+cCEIL(GgLOS]^TRYlORN* BRACKETnURLY BRACK
ET=LOW* HOOKkMIDD, PIECEmUPP* HOOKyDOTT]SUBS_TU_: BRACKETzUB, ;G, BRACKETnP&^THESISlQUOTA_: M&KoWIGGLY F^CEtFISH TAILhVE E<H
S BLOCKrLOORfH)F BLACK CIRC,gST&iOCKfCIRC,=%DOTdFOUR DOTSjTHREE DOTSjWO DOTSuFOLD*g(V*SE MEDIUM SHADE ;D R< H)F BLOCK+pMEDIU
M SHADEmRUNN(G M;oND TE,PH:E RECEIV*xLOW P&APHRASE BRACKETvUGGAGEhMUL_MAPiNORM) FACTOR SEMIDIRECT PRODUCT+g:E E<H BLOCKmQU&
T* BLOCKqUT* JO(kP&^THESIS=EXT^SI:jLOW* HOOKkUPP* HOOKwRAIS]OMISSI: BRACKETw< &ROW=THROUGH SM)L CIRC,u%DOUB, V*_C) STROKEwSTRO
KEgV*_C) STROKE+aBLACK &ROWlDOUB, &ROW=%STROKEgV*_C) STROKE+hOP^-HEAD]&ROWrS;S-S*IF &ROWqTRI;G,-HEAD]&ROWvWAVE &ROWjHITE &ROWr
S-SHAP]BAG DELIMIT*vEMIDIRECT PRODUCTqV^ E<HS BLOCKsIDEWAYS U BRACKETqNG, QUOTA_: M&KuPEECH BUBB,mQU&E BRACKET=EXT^SI:jLOW* CO
RN*mUPP* CORN*m%DOUB, STROKEnQUILLfSTROKEg_CK ( BOTTOM CORN*nTOP CORN*sUND*B&+bUBS_TU_: BRACKETuTACKdHIRD WHITE R< PO(T(G (DE
X+eOUGHT BUBB,mREE E<HS BLOCKnQU&T*S BLOCKtORTOISE SHELL BRACKETvR;SPOSI_: BRACKETtI;G, BESIDE V*_C) B&wUL& :E QU&T* BLOCK+c
V*_C) B& %QUILLnOX L(ErWHITE CORN* BRACKETnURLY BRACKETn,N_CUL& BRACKETsP&^THESISlSQU&E BRACKEToTORTOISE SHELL BRACKET+bIGGL
Y F^CElRIT(G H;Dn-FAC(G &M^I; ET*NITY?wFISTeSVAS_?=%DOTS+cH;D](T*LAC]P^TAGRAM+bPO(T(G ;G, BRACKETnCURV];G, BRACKETuDOUB, ;G, Q
UOTA_: M&K+bMAGNIFY(G GLASSzSHAD]WHITE R<W&DS &ROW+cIDE &C ;_CLOCKWISE &ROW+cTO-R< EMBEDD(GjISOLATEhM&KeOV*RIDEsW&DS &ROWa. )M
OST EQU) TOpREV*SE )MOST EQU) TOp_LDE OP*ATORwSHORT R<W&DS &ROWw_LDE OP*ATORtND UPP* ;D LOW* :E E<H BLOCK+kFROM B&=TO BLACK DI
AM:DzOV* R<W&DS &ROWvTHROUGH ,SS-TH;jSUBSETgXiO B&=OV* R<W&DS &ROW TO B&+fLACK DIAM:Dq%DOTT]STEMjUB, V*_C) STROKEwEQUILAT*) &R
OWHEADvHOOKeL&GE TRI;G, &ROWHEADxOOPeMEDIUM TRI;G, &ROWHEADzNOTCH]TAILmPLUS |kSM)L EQUILAT*) &ROWHEADvTRI;G, &ROWHEADxTROKEgTA
IL=%DOUB, V*_C) STROKEwV*_C) STROKEyIP DOWNW&DSjUPW&DSlV*_C) STROKEv-TAILkBACK-_LT]SHADOW]WHITE &ROW+fLACK &ROWfCIRC,D WHITE &
ROWyOTTOM-SHAD]WHITE &ROWzCOMPRESS]&ROWqDASH]&ROWlOUB, &ROW=FROM B&i%STROKEgV*_C) STROKEv-TAILkDASH &ROWrF(G*-POST &ROWqR:T-_L
T]SHADOW]WHITE &ROW+hH;DcRPO: OV* R<W&DS H&PO:x%B&B DOWN. R<W&DS H&PO: %B&B DOWN+n| L:G DASHpFROM B&iTO B&hW&DSjUP. ,FTW&DS H&
PO: %B&B DOWN+f:G DASHjR<W&DS H&PO: %B&B UP+lFROM B&iTO B&hW&DSyEAVY &ROWfCOMPRESS]&ROWw,FT-SHAD]WHITE &ROWxOP^-HEAD]&ROWrPAI
R]&ROWSnQUADRUP, &ROWpR<-SHAD]WHITE &ROWxOCKETgS;S-S*IF &ROWpQU&]&ROWkIGG, &ROWoTOP SHAD]WHITE &ROWvRI;G, &ROWHEADk-HEAD]&ROW=
OV* R<W&DS TRI;G,-HEAD]&ROW+lTO B&g%BOLD SHAFTkDOUB, HORIZ:T) STROKErV*_C) STROKEwHEAVY SHAFTlL:G _P DOWNW&DSjUPW&DSqMEDIUM SH
AFTmN&ROW SHAFTmV*Y HEAVY SHAFT+bDASH]&ROWmPAIR]&ROWS+aP, &ROWfDASH &ROWqWO HEAD]&ROWn-HEAD]&ROW FROM B&i%DOUB, V*_C) STROKEwT
AIL=%DOUB, V*_C) STROKEwV*_C) STROKEyRI;G, &ROWHEADStV*_C) STROKE+aTRIP, DASH &ROW+cWAVE &ROWjHITE &ROW=WITH( TRI;G, &ROWHEAD+
tGbM:dOaP&DfPCHA C:S:;T? Ka;GeLbMbNaY(-DOhPbRbTqD#dZ*Ok,TT* AbBAbLAdC>dDAbD~ZAdFAbLAdGAbLAdHAbLAdJ~K>cLAdL~MAbLAdNAbG~YAdP>cLA
dR~S>dT>cS>dT>eV~W~YAjPUNCTUA_: C*-WAgNYET THYOOM TA-ROLsTA-ROLfSHOOK=C*-WAzSIGN NUKTAfR;hUBJO(],TT* R~YAtVOWEL? A~EbIbOaOcUaU
sSS-TH;. DOUB,-L(E EQU). GREAT*-TH;+kGREAT*-TH;. DOUB,-L(E EQU)+k,FTW&DS &ROWpSIMIL&. GREAT*-TH;sOR EQU)pL;T]EQU). GREAT*-T
H;. SL;T]EQU)++fND NOT APPROXIMATEpS(G,-L(E NOT EQU) TO+cBUT NOT EQU) TOfIV)^T TOvCLOS]BY CURVEa. SL;T]EQU)+jEQU) TO OR GREA
T*-TH;yOR APPROXIMATElEQU) TOfIV)^T TOnGREAT*-TH;mSL;T]EQU) TO=%DOT.=R<l(SIDE+iV* EQU) TOnSIGNe%CIRC, (SIDEnDOTdQUES_: M&K.+gV
EL SLID*lFbIBRAdGATURE OP^ ET ORNAM^TwHT CHECK M&KkE< SPOK]AST*ISKvFIVE PO(T]BLACK ST&sSPOK]AST*ISKtOUR PO(T]BLACK CUSPeST&xGR
EEK CROSSl,FT TORTOISE SHELL BRACKET ORNAM^T+kRAILd< TORTOISE SHELL BRACKET ORNAM^T+lS)_REgHADEeIX SPOK]AST*ISKtTHREE PO(T]BLA
CK ST&xWELVE PO(T]BLACK ST&zV*_C) B&mWHITE SQU&EnN(G=MOOD=BUBB,tMBU D#dZ*OkEXCLAMA_: M&Kq,TT* B>dC>dD>dG>cY;eH~J>dK>dL~M~NAbGA
dP>dR~S>cSAdT>cRAdW~YAaNkQUES_: M&KnSIGN KEMPHR^GjLOOdMUKPHR^GjSA-IiM)L ,TT* ;USV&AiK~L~M~NAbGAdP~R~TAoUBJO(],TT* R~W~YAtVOWE
L? AaIbUcEaEcIbOaOcUh-C&RI* ,TT*xIT]LIABILITY?uNE FEEDe(TEGRA_: NOT (CLUD(G THE PO,w%RECT;GUL& PATH &OUND PO,+cSEMICIRCUL& PAT
H &OUND PO,+uSEP&ATORjTABULA_:=SETp& A? A028Be100-102g20Bd31Ce301b2b3b4b5b6b7b8b9AbBbCd10b1b2b3AbBbCc4b5b6b7b8b9c2!c3!c4!c5!c
6!c70b1d400-VASf1-VASf2-VASf3-VASf4-VASf5-VASf6-VASf7-VASf8-VASf9-VASg10-VASf1-VASf2-VASf3-VASf4-VASf5-VASf6-VASf7-VASf8-VASh5
01b2b3b4b5b6b8b9c10b1b2b3b5b6c20b1b3b4b5b6b7b8b9c30b1b2b4b5b6b7b8b9c40b1b2b5b7b8b9c50b1b2b3b4b5b6b7b9c63b4b5b6b8b9c7!c8!c91b2b
4b5b6b8d600b1b2b3b4b6b8b9c1!c20b1b2b3b4b6b7b8b9c34b7b8c40b2b3b4b5b6b8b9c51b2b3b4b5b6b7b8b9c60b1b2b3b4d701 Ad2 Bd3 Dd4 Ed5 Fd
6 Hd7 Jd8 Kd9 Lc-2 L2e3 L3e4 L4e6 L6h10 Wd1 Xd2 Yd3 OMEGAh4 ABBf5 BBe7 DDf26 EYYYh32 JEg800b1b2b3b4b5b6b7dB001b2b3b4b5b6b7b8b9
c10b1b3b6b7c20b1aFbMc2aFbMc3aMc4b6b7b8b9c30b1b4b7b8b9c40b1b4b5b6b7b8b9c50b1b3b4b5b6b7b8b9c60b1b5b6b7b9c70b3b4b6b7b8b9c80b1b2b5
b6b7d118c20b2b3c31AbBd64c71c80b8c91mB IDEOGRAM B100 M;f2 WOM;h4 DE*g5 EQUIDgF M&EgM ST)LI:l6F EWEfM RAMg7F SHE-GOATkM HE-GOATk
8F SOWfM BO&h9F COWfM BULLi20 WHEATh1 B&,Yi2 OLIVEh3 SPICEh5 CYP*USk30 OILf1 W(Eg2c40 BR:ZEi1 GOLDg2b5 WOOLg6c50b1 HORNg2b3b4b
7b8b9 CLOTHi60b1b2 G&M^Tj3 &MOURi4b5b6b7b8b9c70b1b2b3 M:THh4b6 TREEg7b8b9c80b1b2b3b4b5b9c90b1 HELMETk220 FOOTSTOOLl5 BATHTUBk3
0 SPE&h1 &ROWh2b3 SWORDh4b6c40 WHEE,D CH&IOTr1 CH&IOTj2 CH&IOT FRAMEp3 WHEELh5b6b8b9c51b2b3b4 D&Tg5b6b7b8b9eVESSEL B155d20!c1!
c21b2b6b7b8b9c50d305uM:OGRAM B127 KAPOg8 K;AKOj33 &EPAh5 M*Ih56 TURO2j247 DIPTEtSYLLAB, B001 DAe2 ROe3 PAe4 TEe5 TOe6 NAe7 DIe
8 Ad9 SEf10 Ud1 POe2 SOe3 MEe4 DOe5 MOe6 QAe7 ZAf20 ZOe1 QIe3 MUe4 NEe5 A2e6 RUe7 REe8 Id9 PU2g30 NIe1 SAe2 QOe3 RA3f6 JOe7 _e
8 Ed9 PIf40 WIe1 SIe2 WOe3 A3e4 KEe5 DEe6 JEe8 NWAg50 PUe1 DUe2 NOe3 RIe4 WAe5 NUe7 JAe8 SUe9 TAf60 RAe1 Od2 PTEf5 JUe6 TA2f
7 KIe8 RO2f9 TUf70 KOe1 DWEf2 PEe3 MIe4 ZEe5 WEe6 RA2f7 KAe8 QEf80 MAe1 KUe5 AUe7 TWEg90 DWOf1 TWOpMBOL B018b9c22c34c47b9c56c6
3b4c79c82b3b6b9rK SYMBOLh]PAP*CLIPSp: FACEhPSa_CKgRA?hSU ,TT* AaEcB~C>dDAbZAdEaUcF~G>dH>dIbJ~K>dL~M~NAbGAdOaEcP>dS>dT>c:E MY
A BOcCYAdJEUdN~_gNA POjS>eUaEbHcW~X~Y>dZ>kPUNCTUA_: COMMAfFULL STOPyVRE TOURNOIS?rZ&DfLAMAeOBST*fCK=%(K P^n(G-SHIFT :EdZ*OqGI
C) ;D=%DOT.hUB, OV*B&hUND*B&pHORIZ:T) DASHpMIDD, STEMlUND*B&rOR=OV*LAPP(G LOGIC) ;Dx%DOT.hUB, OV*B&hUND*B&pHORIZ:T) DASHpMID
D, STEMzLLIPOPgNG DASH FROM ,FT MEMB* OF DOUB, V*_C)+nIVISI:hRUMe,FT R< &ROWfDOUB, &ROWsTACKfW&DS &ROW=FROM B&oDOUB, &ROW=FRO
M B&vSQUIGG, &ROWyR< TACKfW&DS &ROW=FROM B&oDOUB, &ROW=FROM B&vSQUIGG, &ROW+c_: BOTT,kUSdUDLY CRY(G FACEqVE HOTELf,TT*jW AST*I
SKiBATT*YgR<NESS SYMBOLrDOUB, PRIME QUOTA_: M&K+bKAVYKA=%DOTpL(Ef* BLADE SCISSORSoFIVE E<HS BLOCKsH)F BLOCKfCIRC,g(V*SE WHIT
E CIRC,uMEDIUM SHADEr,FT B)LPO(T P^mLOCK DIAG:) LOW* MIDD, ,FT TO LOW* C^TREgR<+gUPP* C^TRE TO LOW* MIDD, R<mR<lUPP* MIDD, R<+
c,FT TO LOW* C^TREgMIDD, R<sUPP* MIDD, R<+aMIDD, ,FT TO LOW* C^TREgMIDD, R<mR<+vCRAY:gFOUNTA( P^mPA(TBRUSHj^CILgQUADR;T CIRCU
L& &CvSEMICIRCUL& ;_CLOCKWISE &ROW+gTRI;G,cUL& MEDIUM SHADE+c:E E<H BLOCKmQU&T* BLOCKrR< BLOCK DIAG:) LOW* C^TRE TO LOW* MID
D, R<sUPP* MIDD, R<mR<v,FT TO LOW* MIDD, R<sUPP* C^TREgMIDD, R<+aMIDD, ,FT TO UPP* C^TREgMIDD, R<mR<+gUPP* MIDD, ,FT TO UP
P* C^TREgR<+vCORN* %DOTpDROP-SHADOW]WHITE SQU&E+aP^CILgQUADR;T CIRCUL& &CvSEMICIRCUL& CLOCKWISE &ROW+bHADOW]WHITE CIRC,gSQU&Ev
TRI;G,cUL& MEDIUM SHADE+dSEV^ E<HS BLOCKtTHREE E<HS BLOCKnQU&T*S BLOCKtRI;GUL& :E QU&T* BLOCK+gZ^GE=DIVID]BY HORIZ:T) RU,+hREb
IbMbOcUGGAGEfNGSeYCI; ,TT* AaNcBaHcDbEaNcGbHbIbJbKaKcLbMaMcNaNcPbQbRbSbTaHbTcUbWbXbZnDI; ,TT* AaNcBbCbDbEaNcFbGbIbKbLaYcMbNaNc
ObQbRbSaScTaTcUbVbYiTRI;GUL& M&Ku(G FACEkMACR:eGEbIC W;DhNETeHAJ;I ABBREVIA_:?r,TT* AbB>dC>dDAbD>dHAdEbG>dH~IbJ>dK>dL~M~NAbN~Y
AdObP>dRAbRAdS~T>cT>eUbVAiIGATURE SHRInSEC_: M&KlIGN NUKTAqJ:G _, AUTUMNgBACKcMBOOgCHRYS;THEMUMnEAST W(Di< OF BAMBOOShCH&ACT*S
jIRC,SqFIVE OF BAMBOOShCH&ACT*SjIRC,SoOUR OF BAMBOOShCH&ACT*SjIRC,SpGRE^ DRAG:mJOK*fN(E OF BAMBOOShCH&ACT*SjIRC,SoORTH W(Dk:
E OF BAMBOOShCH&ACT*SjIRC,SnRCHIDgPLUMeR]DRAG:kSEV^ OF BAMBOOShCH&ACT*SjIRC,SpIX OF BAMBOOShCH&ACT*SjIRC,SnOUTH W(DjPR(GfUMM*g
THREE OF BAMBOOShCH&ACT*SjIRC,SpWO OF BAMBOOShCH&ACT*SjIRC,SoWEST W(DiHITE DRAG:l(T*rKAS& ;GKAf^D OF SEC_:o,TT* AbB~C~D~G~J~K~
L~M~NAbG~YAdP~R~S~T~V~YAjPASSIMB;GkVOWEL? EbIbObUsLAY)AM AU ,NGTH M&KoDATE M&Ki#dZ*OkFRAC_: :E E<HgFIFTHeOR_ETHiH)Fe:E-HUNDRE
D-;D-SIX_ETHyQU&T*hSIXTE^THjT^THeW^_ETHnTHREE E<IETHSkQU&T*SiSIXTE^THSkTW^_ETHSz,TT* AaAbIbRCHAIC IIjUcB>dC>bILLU KbLaLaLdMbNa
NcRRcYiDAbD>dH~OT REPHiEaEcG>dH~IaIcJ>dK>dLAbLAbLAeM~NAbG~NAbNAdYAdOaOcP>dRAbRAdS>cSAdT>cT>cTAeUaUcVAbEDIC ;USV&AnOC)IC LaLcRa
RkYAjNUMB* :E HUNDREDhTHOUS;DmT^kSIGN ;USV&AhVAGRAHAiC;DRAB(DUkIRCUL& VIRAMAoOMB((G ;USV&A.yP&AeV*_C) B& VIRAMAsIRAMAeS&GAmVOW
EL? AAbIbUcEaEcIaIcOaOcUaUcVOC)IC LaLcRaR+cE ;D FEM)E?pSIGNe%STROKE ;D M)E ;D FEM)E?ySIGNsTESE CROSSlMMOTHfN=;D WOM; HOLD(G H;
DSxD;C(Gh( BUS(ESS SUIT ,VITAT(GyTUXEDOj%GUA PI MAOkTURB;mAT?hDAIC AFFRICA_: M&KqGEM(A_: M&Kp,TT* ABbDbGbHb(cKaSAdLbMbNbPbQbRb
SaHbZcTaTcZcDUSH^NAiH)QAf(bTcKADdUSH^NAoPUNCTUA_:lVOC)IZA_: M&KwGOcICHAE; ABBREVIA_: M&K.f|x,TT* AAY(e,PHeY(eBETHdHETHfD)ETHfH
AMEDHhFEcGHIMELfIMELfHEaTHeJAY(eHAY(gKAPHdHAPHfLAMEDHgMEMdNUNdPEcQHOPHeOPHeRESHeSADHEdMEKHfH(dSH(fTAWcETHdHAMEDHhWAWdXAPHdOPHe
YODHeZAY(eHAY(nNUMB* FIVEe:E=HUNDREDlT^cW^TYnPUNCTUA_: DOT=WITH( DOTmUB, DOT WITH( DOTvF,UR:hL(E FILL*lST&eTWO DOTSuSIGN UDp
S SHOEgTELPIECE CLOCKoU) WHEELCHAIRpP SYMBOL FOR L<HOUSEw, ,AFiRCH^ HEAD M&Kj,TT* -~AbB~C>dDAbZAdG~H~J~K>dL~M~NAbG~YAdP>dR~S>d
T>cS>eW~Y~Z>kM&K SHADjSIGN ;USV&AiC;DRAB(DUpUBJO(],TT* AbB~C>dDAbZAdG~H~J~K>dL~M~NAbG~YAdP>dR~S>dT>cS>eW~Y~Z>uVOWEL? A~EbIbObU
rRIAGE SYMBOLm_) &TS UNIFORMsS&AM G:DI D#dZ*Ok,TT* AaAbIbUcB>dC>dDAbD>dHAdEbG>dH~IaIcJ>cNYAeK>cSSAeLAbLAdM~NAbG~N~YAdObP>dR~S>
cSAdT>cR~T>eUaUcV~YAjRA-K&AgEPHAfSIGN ;USV&AiC;DRAgH);TAhNUKTAfVIS&GAmVIRAMAfOWEL? AAbIbUcEbIaIcObUaUcVOC)IC R+fCUL(E ORD() (D
ICATORyK WORK SYMBOLnU M&KhTE DR(KhHEMA_C) BOLD CAPIT) AaLPHAfBaETAeCaHIdDaELTAeIGAMMAhEaPSIL:gTAdFbGaAMMAfHbIaOTAeJbKaAPPAfLa
AMDAfMaUcNaUcOaMEGAdICR:hPaHIcIbSIdQbRaHOdSaIGMAfTaAUcHETA=SYMBOLmUaPSIL:hVbWbXaIcYbZaETAmD#dZ*OkEPSIL: SYMBOLoFRAKTUR CAPI
T) @bGbHbIbJbKbLbMbNbObPbQbRbSbTbUbVbWbXbYbZjSM)L @bGbHbIbJbKbLbMbNbObPbQbRbSbTbUbVbWbXbYbZpIT)IC CAPIT) AaLPHAfBaETAeCaHIdDaE
LTAfEaPSIL:gTAdFbGaAMMAfHbIaOTAeJbKaAPPAfLaAMDAfMaUcNaUcOaMEGAdICR:hPaHIcIbSIdQbRaHOdSaIGMAfTaAUcHETA=SYMBOLmUaPSIL:hVbWbXaIcY
bZaETAmEPSIL: SYMBOLoKAPPA SYMBOLmNABLAfP&_) DIFF*^_)tHI SYMBOLjI SYMBOLjRHO SYMBOLkSM)L AaLPHAfBaETAeCaHIdDaELTAfEaPSIL:gTAdF
a() SIGMAlGaAMMAfHbIaOTAeJbKaAPPAfLaAMDAfMaUcNaUcOaMEGAdICR:hPaHIcIbSIdQbRaHOdSaIGMAfTaAUcHETAfUaPSIL:hVbWbXaIcYbZaETAkTHETA S
YMBOLtKAPPA SYMBOLmNABLAfP&_) DIFF*^_)tHI SYMBOLjI SYMBOLjRHO SYMBOLkSCRIPT CAPIT) @bGbHbIbJbKbLbMbNbObPbQbRbSbTbUbVbWbXbYbZjS
M)L @bGbHbIbJbKbLbMbNbObPbQbRbSbTbUbVbWbXbYbZnM)L AaLPHAfBaETAeCaHIdDaELTAeIGAMMAhEaPSIL:gTAdFa() SIGMAlGaAMMAfHbIaOTAeJbKaAPP
AfLaAMDAfMaUcNaUcOaMEGAdICR:hPaHIcIbSIdQbRaHOdSaIGMAfTaAUcHETAfUaPSIL:hVbWbXaIcYbZaETAkTHETA SYMBOLrDOUB,-STRUCK CAPIT) AbBbDb
EbFbGbIbJbKbLbMbObSbTbUbVbWbXbYjD#dZ*OkSM)L @bGbHbIbJbKbLbMbNbObPbQbRbSbTbUbVbWbXbYbZvF)L(G DIAG:)pRAKTUR CAPIT) AbBbDbEbFbGbJ
bKbLbMbNbObPbQbSbTbUbVbWbXbYjSM)L @bGbHbIbJbKbLbMbNbObPbQbRbSbTbUbVbWbXbYbZpIT)IC CAPIT) AaLPHAfBaETAeCaHIdDaELTAfEaPSIL:gTAdF
bGaAMMAfHbIaOTAeJbKaAPPAfLaAMDAfMaUcNaUcOaMEGAdICR:hPaHIcIbSIdQbRaHOdSaIGMAfTaAUcHETA=SYMBOLmUaPSIL:hVbWbXaIcYbZaETAmEPSIL: SY
MBOLoKAPPA SYMBOLmNABLAfP&_) DIFF*^_)tHI SYMBOLjI SYMBOLjRHO SYMBOLkSM)L AaLPHAfBaETAeCaHIdDaELTAeOT,SS IbJjEaPSIL:gTAdFa() SI
GMAlGaAMMAfIaOTAeJbKaAPPAfLaAMDAfMaUcNaUcOaMEGAdICR:hPaHIcIbSIdQbRaHOdSaIGMAfTaAUcHETAfUaPSIL:hVbWbXaIcYbZaETAkTHETA SYMBOLt,F
T ;G, BRACKETnDOUB, ;G, BRACKETuFLATT^]P&^THESISvWHITE SQU&E BRACKEToTORTOISE SHELL BRACKET+hM:OSPACE CAPIT) @bGbHbIbJbKbLbMbN
bObPbQbRbSbTbUbVbWbXbYbZjD#dZ*OkSM)L @bGbHbIbJbKbLbMbNbObPbQbRbSbTbUbVbWbXbYbZrR< ;G, BRACKETnDOUB, ;G, BRACKETuFLATT^]P&^THES
ISvWHITE SQU&E BRACKEToTORTOISE SHELL BRACKET+gS(G DIAG:)pS;S-S*IF BOLD CAPIT) AaLPHAfBaETAeCaHIdDaELTAfEaPSIL:gTAdFbGaAMMAfHb
IaOTAeJbKaAPPAfLaAMDAfMaUcNaUcOaMEGAdICR:hPaHIcIbSIdQbRaHOdSaIGMAfTaAUcHETA=SYMBOLmUaPSIL:hVbWbXaIcYbZaETAmD#dZ*OkEPSIL: SYMBO
LoIT)IC CAPIT) AaLPHAfBaETAeCaHIdDaELTAfEaPSIL:gTAdFbGaAMMAfHbIaOTAeJbKaAPPAfLaAMDAfMaUcNaUcOaMEGAdICR:hPaHIcIbSIdQbRaHOdSaIGM
AfTaAUcHETA=SYMBOLmUaPSIL:hVbWbXaIcYbZaETAmEPSIL: SYMBOLoKAPPA SYMBOLmNABLAfP&_) DIFF*^_)tHI SYMBOLjI SYMBOLjRHO SYMBOLkSM)L A
aLPHAfBaETAeCaHIdDaELTAfEaPSIL:gTAdFa() SIGMAlGaAMMAfHbIaOTAeJbKaAPPAfLaAMDAfMaUcNaUcOaMEGAdICR:hPaHIcIbSIdQbRaHOdSaIGMAfTaAUc
HETAfUaPSIL:hVbWbXaIcYbZaETAkTHETA SYMBOLtKAPPA SYMBOLmNABLAfP&_) DIFF*^_)tHI SYMBOLjI SYMBOLjRHO SYMBOLkSM)L AaLPHAfBaETAeCaH
IdDaELTAfEaPSIL:gTAdFa() SIGMAlGaAMMAfHbIaOTAeJbKaAPPAfLaAMDAfMaUcNaUcOaMEGAdICR:hPaHIcIbSIdQbRaHOdSaIGMAfTaAUcHETAfUaPSIL:hVb
WbXaIcYbZaETAkTHETA SYMBOLrCAPIT) @bGbHbIbJbKbLbMbNbObPbQbRbSbTbUbVbWbXbYbZjD#dZ*OkIT)IC CAPIT) @bGbHbIbJbKbLbMbNbObPbQbRbSbTb
UbVbWbXbYbZjSM)L @bGbHbIbJbKbLbMbNbObPbQbRbSbTbUbVbWbXbYbZoSM)L @bGbHbIbJbKbLbMbNbObPbQbRbSbTbUbVbWbXbYbZrCRIPT CAPIT) AbCbDbG
bJbKbNbObPbQbSbTbUbVbWbXbYbZjSM)L AbBbCbDbFbHbIbJbKbLbMbNbPbQbRbSbTbUbVbWbXbYbZzXIMIZEgY; NUM*) E<aE^h,V^gFIFTE^fVEdOURaTE^iN(
EaTE^i:EdSEV^aTE^iIXaTE^hT^cHIRTE^gREEeWELVEeOdZ*OrEASUR];G,=OP^(G ,FTm%OP^ &M ^D(G ( &ROW PO(T(G DOWN ;D ,FTeR<o,FT ;D DOWNeU
PlR< ;D DOWNeUPmUP ;D ,FTeR<++fBYcR< ;G, %DOT+aT : B:EkCH;IC) &Md,GmDEFAIDR( CAPIT) ,TT* AaIb_UeBbCbDbEbFbGbHaPcIbJbKaPcLbMbNa
GbYcOaEcPbQbRbSbTbUbVbWbXbYaUcZpOMMAfDIGIT E<fFIVEdOUReN(Ee:E=)T*NATE$sSEV^eIXdTHREE=)T*NATE$tWO=)T*NATE$sZ*OkEXCLAMA_: OHoFUL
L STOPjNUMB* E<E^h,V^gFIFTE^gOURTE^iN(ETE^iSEV^TE^iIXTE^hT^cHIRTE^hWELVEnSM)L ,TT* AaIb_UeBbCbDbEbFbGbHaPcIbJbKaPcLbMbNaGbYcOa
EcPbQbRbSbTbUbVbWbXbYaUcZnYMBOL AIVAuIEV) COMMAfEXCLAMA_: M&KqQUES_: M&KsUM BLACK CIRC,lOLD WHITE CIRC,rE< PO(T]BLACK ST&sSPO
K]AST*ISKvFIVE SPOK]AST*ISKtLATT^],FT P&^THESIS ORNAM^TzR< P&^THESIS ORNAM^T+jOUR PO(T]BLACK ST&kP(WHEEL ST&+aGREEK CROSSl,F
T CURLY BRACKET ORNAM^TwP&^THESIS ORNAM^Tv-PO(T(G ;G, BRACKET ORNAM^T+kMATHEMA_C) SPACEsR< CURLY BRACKET ORNAM^TwP&^THESIS ORN
AM^Tv-PO(T(G ;G, BRACKET ORNAM^T+lS)_REgHADEeIX PO(T]BLACK ST&sSPOK]AST*ISKsM)L WHITE CIRC,sTHREE PO(T]BLACK ST&kP(WHEEL ST&+b
V*_C) B&mWHITE CIRC,gSQU&ErETEI MAYEK AH;G KHUDAMlNJIdPUN IYEKjCHEIKH;cEIiD#dZ*Ok,TT* A_YAfB>MeCHAbILeDD>dHOUdILdEbGHOUdOKdHUK
dI=L:SUMiJHAMdILdKHOUdOK=L:SUMkLAI=L:SUMkMIT=L:SUMkNA=L:SUMiGOU=L:SUMkN~YAdObPA=L:SUMiHAMeRAIdSAMcH~SAdTHOUdIL=L:SUMjT>eUNcWAI
dY;GkUM IYEKiSYLLAB, REPE__: M&KyVIRAMAfOWEL? AAIbUcNAPdUcCHE(APhIIbNAPeNUNGe:APeSOUNAPgUNAPdUcVIS&GAhY^APqWORD REPE__: M&K+f
L:cT(G FACEkMOcNDE KIKAKUI COMB((G NUMB* HUNDR]THOUS;DSkSiMILLI:SiTE^SdN THOUS;DSkSdHOUS;DS+aD#jSYLLAB, M001 KIe2 KAe3 KUe4 WI
e5 WAe6 WUe7 M(f8 M;f9 MUNg10 BIe1 BAe2 BUe3 Id4 Ad5 Ud6 DIe7 DAe8 DUe9 SIf20 SAe1 SUe2 _e3 TAe4 TUe5 LIe6 LAe7 LUe8 JIe9 JAf3
0 JUe1 YIe2 YAe3 YUe4 FIe5 FAe6 FUe7 N(f8 N;f9 NUNg40 HEEf1 HAe2 HOOf3 NGGAg4 KPEEg5 WOe6 HU;g7 MBEEg8 KOe9 WVAg50 PUe1 PEe
2 H^f3 H(f4 LOOf5 TEe6 GBAf7 NG:g8 NY;g9 M^g60 NY:g1 WVIf2 MBAf3 JOe4 NDOf5 KEEf6 POe7 NDOOg8 PIe9 TOf70 GBOf1 GBOOg2 MBEf3 ,e
4 KPUf5 FEe6 KOOf7 VOe8 FEEf9 SOf80 YEe1 PEEf2 NGGUg3 HEEIg4 ,Ef5 VEe6 L:G NGGEl7 HUNf8 FOe9 DEEg90 NGGIg1 TEEf2 KPAf3 GBEEg
4 M:f5 KEe6 HEe7 BEe8 NY^g9 PAg100 Ed1 F;f2 POOf3 BOOf4 TOOf5 L:G MBOOl6 L:G NGGOOm7 GBEf8 KPEf9 YEEg10 L:G ,j1 GAe2 KPOOg3 JE
e4 WOOf5 NGGEEh6 SEe7 N^f8 WEe9 NDEg20 NGGOg1 YOe2 MBUf3 NDIf4 GBIf5 NDUf6 WEEf7 NGGUAh8 HOOUg9 NDAg30 H;f1 (e2 KPIf3 FOOf4 NJ
OOg5 (e6 SOOf7 EIe8 BOe9 WVEg40 HOe1 YOOf2 L:G MBOk3 WEIf4 VOOf5 MBIf6 NGGEg7 Od8 GBUf9 NJEEh50 BEEf1 VUe2 NJAf3 LOe4 MU;g5 GI
e6 NGGOOh7 JEEf8 KPOf9 NGGAAi60 JOOf1 L:G MBEk2 SEEf3 EEe4 NY(g5 OOe6 GUEIg7 GU;g8 GUe9 N:g70 NYUNg1 RAe2 MBOOg3 VEEf4 MBOf
5 L:G JOj6 HIe7 NGU;h8 ^e9 KUAg80 DOOf1 DOe2 VIe3 L:G NGGOl4 NG^g5 VAe6 HUe7 MBUUg8 MBEEg9 MU^h90 GEEf1 NDEEg2 NJUf3 H:f4 WUIf
5 ;e6 SIAf7 FUA+cORAH %N(E BR;CHESxS SYMBOLjRCURYeOI_C CURSIVE FRAC_: E< TWELFTHSn,V^ TWELFTHSpFIVE TWELFTHSmOUR TWELFTHSnN(
E TWELFTHSn:E H)FeTWELFTHlSEV^ TWELFTHSnIX TWELFTHSmT^ TWELFTHSlHREE TWELFTHSnWO TWELFTHSv,TT* AaRCHAIC SAkB~D~EbHHAdIbK>dL~M~
NAbEcObP~Q~R~SAbEcTAbEbOcW~YAiOGOGRAM IMNdRMTmNUMB* E<=HUNDRED=THOUS;DqTHOUS;DjY THOUS;DpFIFTY=THOUS;DmVE=HUNDRED=THOUS;DqTHOU
S;DmORTY=THOUS;DmUR=HUNDRED=THOUS;DqTHOUS;DnN(E=HUNDRED=THOUS;DqTHOUS;DjTY THOUS;Dp:E=HUNDRED=THOUS;DqTHOUS;DmSEV^=HUNDRED=THO
US;DqTHOUS;DjTY=THOUS;DpIX=HUNDRED=THOUS;DqTHOUS;DjTY=THOUS;DoT^=THOUS;DlHIRTY=THOUS;DnREE=HUNDRED=THOUS;DqTHOUS;DnW^TY=THOUS;
DnO=HUNDRED=THOUS;DqTHOUS;D+bHI*OGLYPHIC ,TT* AbBAa-2eD~EbHHAdIbK>dL~M~NAa-2dEa-2eObP~Q~RAa-2eSAa-2dEcTAa-2dEa-2dOcW~YAjSYMBO
L VIDJa-2+gP*S:hSSAGE WAIT(GnTRIC) BREVEfL:G OV* SHORTfTWO SHORTSuP^TASEMEjSHORT OV* L:GpTETRASEMEiRISEMEgWO SHORTS JO(EDgO
V* L:GzOeIAO ,TT* AHbRCHAIC M~NAbGAdZZAlBAbRIdDAbD~LHAbYAeZ>cYIcZAeF~G>bHAeH>dK~L>bYAdYAdM>dNAaS)IZA_:lG>dH~N>dY>ePAbLAdQAbGAd
REFORM]T:E-1b2b4b5b6b8fSHAmTEdS>cS~YIdTAbEbLHAbYAe:E-2b3b4b5b6b7b8fSAbEbH~SAdTAdVAbFAdW~X~YI DZHAeK~NNAdP~TAbS>dTAgZ>cS>dZAbSA
bYAdYAlSIGN ASPIRA_:kC:S:;T MODIFI* B&wREFORM]ASPIRA_:kVOIC(GvT:E.f|fR<fTOP R<oVOWEL? AaAbEaEcHHcIbNaGcUcEaAbIbNaGcRaRdIaAaNaG
dEbGbIbNGcOaNGdUcNaGcOa*bYcGbObUcROUND]*aRlUaAaNaGdEIcIbNGcOGcUcVWcWaOcYaIbUIrCR DASH SYMBOLl: US SYMBOLnO?fBEcPH:EfSCOPEiD
D, DOTdTHIRD WHITE R< PO(T(G (DEX+kL(E HORIZ:T) ELLIPSISzLIT&Y HELMETgMED)lKY WAYgL?hNIBUSdDISCeMIZEfUS?=( TRI;G,l%COMMA.lDO
T |jF)L(G DOTSmRIS(G DOTSv_LDEg-OR-PLUS?pYcRROR=B)LkMSPdOBI, PH:E=OFFd%R<W&DS &ROW AT ,FT+oDELScRN P^TATHL:oI ABBREVIA_:?rD;DA
e#dZ*OjOUB, D;DAm,TT* AaAbIbUcB>dC>dDAbD>dHAdEbG>dH~IaIcJ>dK>dLAbLAdM~NAbG~N~YAdObP>dR~S>cSAdT>cT>eUaUcVAbOC)IC LaLcRaRkYAjSIG
N ;USV&AhRDHAC;DRAlHUVAeVIRAMAeS&GAmVOWEL? AAbIbUcEbIaIcObUaUcVOC)IC LaLcRaRwFI* BREVE %(V*T]BREVEz,TT* ACUTE ACC^TlLVEOL& CLI
CKnPOSTROPHEkBEG( HIGH T:EjLOW T:EnILABI) CLICKoCAPIT) AaEcBa&R]BiCbDbEbFbGbH=%STROKEnIbJbKbLbMbNbOaUcPbQbRaEV*S]EbNkTbUbVbWi^
TR],FT H)F R(GoR< H)F R(GwH(ESE T:E Y;G P(GeQUcRUcSH;Gj( P(GeQUcRUcSH;GvIRCUMF,X ACC^TqOL:eROSS ACC^TlYRILLIC ^cH&D?jSOFT?sD^
T) CLICKlOT HORIZ:T) B&oSLASHfV*_C) B&oUB, APOSTROPHEkPRIMEkWN &ROWHEADjTACKj^D HIGH T:EjLOW T:ElXTRA-HIGH DOTT],FT-STEM T:
E B&sT:E B&p,FT-STEM T:E B&sT:E B&nLOW DOTT],FT-STEM T:E B&sT:E B&p,FT-STEM T:E B&sT:E B&sGEORGI; N&lLOTT) STOP=%STROKExRAVE A
CC^TmH)F TRI;GUL& COL:uIGH DOTT],FT-STEM T:E B&sT:E B&p,FT-STEM T:E B&sT:E B&nLAT*) CLICKmEFT &ROWHEADjH)F R(GjTACKiOW ACUTE A
CC^TmCIRCUMF,X ACC^TrDOTT],FT-STEM T:E B&sT:E B&nWN &ROWHEADoGRAVE ACC^Tm(V*T]EXCLAMA_: M&Kz,FT &ROWaHEADk-STEM T:E B&sMACR:g
R< &ROWHEADnNGe_LDEe:E B&iUP &ROWHEADmV*_C) L(Eo* R< CORN* ;G,yMACR:fID DOTT],FT-STEM T:E B&sT:E B&p,FT-STEM T:E B&sT:E B&j
D, DOUB, ACUTE ACC^TmGRAVE ACC^TtGRAVE ACC^TrNUS?kOP^ SHELFkPLUS?iRIMEfRAIS]COL:fDOWN &ROWkEXCLAMA_: M&Kq(V*T]EXCLAMA_: M&KzU
P &ROWoETROF,X CLICK %RETROF,X HOOK+hV*S]COMMAfGLOTT) STOP=%STROKE+gHO_C HOOKk< &ROWHEADjH)F R(GjTACKkSHELFdORT EQU)S?qM)L AaE
b(cLPHAfB=%HOOKk&R]OhETAdOTTOM H)F OnC=%CURLkAPIT) A~BbG=%HOOKlHbI=%STROKEmNV*T]RkL=%BELTlNbOEcRbUbYiHIcLOS]OMEGAfREV*S]OP^ Ew
D=%HOOK=;D TAILnTAILkELTAdZH DIGRAPHlOT,SS J %STROKE=;D HOOK+dZ DIGRAPH=%CURLeRETROF,X HOOK+eEaNGcSHcTHcZHdFa^G DIGRAPHmG=%HOO
KkAMMAeREEK GAMMAfPHIjH=%HOOKeSTROKEm^G=%HOOKoI %STROKEmOTAeJ=%CROSSED-TAILtKbL=%BELTe(V*T]LAZY SpMIDD, _LDEmP)AT) HOOKmRETRO
F,X HOOK=;D BELT+dEZH=%RETROF,X HOOKxIGATURE OEkS DIGRAPHjZ DIGRAPHkM=%HOOKlN %,FT HOOKjRETROF,X HOOKvO=%STROKEmP^ EbOgPaHIdQb
R=%FISHHOOKiTAILkAMS HORNiEV*S]EbGLOTT) STOPmOP^ EpS=%CURLeHOOKkCHWAdRIPT GhIDEWAYS UkT=%P)AT) HOOKmRETROF,X HOOKuC DIGRAPH %C
URLtESH DIGRAPHlHETAeOP H)F OjS DIGRAPH=%RETROF,X HOOK+dURN]AaEbLPHAfHbIbM=%L:G ,GpOP^ EgR=%HOOKeL:G ,G=;D RETROF,X HOOK+iVbWb
Y=%BELTsU=B&d%,FT HOOKpPSIL:hV=%HOOKeR< HOOKrWbXbYbZ=%CURLeRETROF,X HOOK+aTRESS ;D HIGH T:EjLOW T:EsUP*SCRIPT H)F TRI;GUL& CO
L:vTRI;GUL& COL:+cTRI;GUL& COL:pURN]COMMAmUNASPIRATEDkP &ROWHEADjTACKgScV*_C) L(EmOIC(GhY;G DEP&T(G T:E M&Kx( DEP&T(G T:E M&K+
kULO TWO SUMmNEY BAGd%W(GSl-MOUTH FACEnGOLI; BIRGA=%DOUB, ORNAM^TpORNAM^TtCOL:dMMAfD#dZ*OjOUB, BIRGA %ORNAM^T+aELLIPSISiFOUR D
OTSiREE V&IA_: SE,CTOR FOURe:EdTHREEeWO+aULL STOPj(V*T]BIRGA=%DOUB, ORNAM^T+j,TT* AaLI G)I AaHbNUSV&A :EmB)UDAgC~DAaG)GAfM&UfD
AdH)F UbYAhIaNV*T]UBADAMAqK~NG~NAdP>dSSAdTAbHREE B)UDAlT>eUBADAMAhVIS&GA :ElZ>lNGdB~CHA=%TWO DOTSpIdD~EaEcF~G~HAAdIbJ~K>dL>dMA
aNCHU )I G)I BHAdCAbYAdDDHAdHAdGHAdJHAdLHAdNGAdSSAdTAbTAdZ>mF~IbK~R~ZHAkN~OaEcP~Q~R~S>cIBE ;GdCHAdD~EbF~GAaAdHAaAdIaYcJ~K~P~RA
AdSHAdTAbSAdUaEcZ>iTAbODO )I G)I T~ZHAlNGdB~CHAdDAbZAdEbGAaAdHAAdIbJAbIAdK~L:G VOWEL?pM~NIAdOaEcP~Q~TAbSAdUaEcW~YAgSAdUaEcW~Y~
ZAbHIcRAkM;CHU COMMAfFULL STOPqNIRUGUgROTAT]BIRGA=%DOUB, ORNAM^TpORNAM^T+bSIBE SYLLAB, BOUND&Y M&K*+cWIRL BIRGA=%DOUB, ORNAM^T
pORNAM^TzTODO SOFT HYPH^pRIP, BIRGA %ORNAM^TzURN]SWIRL BIRGA %DOUB, ORNAM^T+nVOWEL SEP&ATORwKEY=FACEiOGRAM FOR E&THfY;Gd(mRAIL
eSTAB, SYMBOLpOD BUBB,iN CAKEeVIEW(G C*EM:YtSQUEbITOgTH* CHRISTMASnOR BOATeSCOOT*iIZ]WHEELCHAIRpWAYgUNT FUJIfA(=BICYCLISTjCAB,
WAYiRAILWAYnSE=FACEeTRAPhTHdVIE CAM*AkYAIeRO D;DAe#dZ*OjOUB, D;DAm,TT* AbB~CHUdDAaIdEa~HAIbOdKEAAEeHAIdOcLAaNdMAEMdIMdNGIc(dOa
LbOcPAbHIdRIbOcSHIdTAbEKcHEAeW~YOmUCH GREAT*-TH;m,SS-TH;mLT;I ,TT* AbB>dC>dDAbDAbD~HAdHAdEbG>dH~IbJAbJAdK>dL~M~NAbN~YAdP>dR>cR
AdS~T>cT>eUbV~YAjSEC_: M&KqIMAPdP, MUSIC) NOTESpICA_:?=( DOUB, CIRC,n,FT H)F CIRC,qR< H)F CIRC,rTRI;G,l%DOT.jUND*B&sXlSET=MUL_
PLICA_:oUNI:mSHROOMfIC FLAT?jNATUR)?mSH&P?l) KEYBO&D=%JACKStNOTEeSCOREeYMBOL &PEGGIATO DOWNeUPnBEG( BEAMePHRASEgSLURe_EiRACEbK
ETfEATH M&KiVEbIS=RESTlC C,FfAESURAgIRC, X NOTEHEADqLIMACUSfVISeUST* NOTEHEAD BLACKfWHITEvOD~MB((G ACC^Ta-STACCATOoUGM^TA_: DO
TqB^DeDOITcUB, T:GUElWN BOWiFLAG-1b2b3b4b5eIPeH&M:ICiLOUREfM&CATOa-STACCATOqRIPdSME&eNAP PIZZICATOnPRECHGES;G STEMqTACCA_SSIMO
gOgEMeT^UTOfREMOLO-1b2b3hIP, T:GUEnUP BOWnM: _MEkRESC^DOhOIXeUT _MEiDA CAPOfL SEGNOhMP=)LgSH]B&L(EnECRESC^DOjGREE SLASHlOU
B, B&L(EhFLATeSH&PlRUM C,F-1b2lE<H NOTEeRESTkND BEAMeOF S_MMEjPHRASEgSLURe_EhF C,F=OTTAVA )TAeBASSAs*MATA=|m() B&L(EkG*]TREMOL
O-1b2b3qVE-L(E STAFFoLAT DOWNeUPgORTEdUR-L(E STAFFkSTR(G FRETBO&DuUSA BLACKfWHITEkG C,F=OTTAVA )TAeBASSAsLISS;DO DOWNeUPlRAC
E NOTE NO SLASHiSLASHoEGORI; C C,FgF C,FqH)F NOTEePED) M&KkRESThUPTS_MMEl(V*T]TURNnKIEV; C C,FgE<H NOTE STEM DOWNeUPsND OF PIE
CEmF() NOTEjLAT?jH)F NOTEjQU&T* NOTE STEM DOWNeUPuRECITA_VE M&KpWHO, NOTEqOR:f,FT REPEAT?p:GA=IMP*FECTA RESTpP*FECTA RESTtMAXI
MAfEZZOe(IMA=BLACKfRESTkO: NOTEHEAD BLACKfWHITEsUL_ RESTfP, MEASURE RESTvNATUR) DOWNeUPjEB^S_MMEkOTEHEAD BLACKnULL NOTEHEADn:
E HUNDR]TW^TY-E<H NOTEeREST+b-L(E STAFFnRNAM^T STROKE-1a0b1c2b3b4b5b6b7b8b9qTTAVA )TAeBASSAmP&^THESIS NOTEHEADtED) M&KeUP M&Kl
S SUBPUNC_SnI;OeLUS NOTEHEADmODATUSfRRECTUS=F,XUSqQU&T* NOTEeRESTeT:E FLATeSH&Pq(DICESIMA )TAeBASSAsREPEAT DOTSf]FIGURE-1b2b3p
V*SE F() B&L(Eu< REPEAT?pNFORZ;DOlSC;DICUS=F,XUSpEGNOdMIBREVIS BLACKfRESTeWHITEmM(IMA BLACKfRESTeWHITEpH&P DOWNeUPgORT B&L(Em(
G, B&L(EmX-L(E STAFFkSTR(G FRETBO&DrTE^TH NOTEeRESTkY-FOURTH NOTEeRESTqORIdQU&E BbNOTEHEAD BLACKfWHITEuUBITOgTEMPUS IMP*FECTU
M CUM PROLA_:E IMP*FECTA=DIM(U_:-1b2b3xP*FECTA+jP*FECTUM CUM PROLA_:E IMP*FECTAkP*FECTA=DIM(U_:-1++aHIRTY-SEC:D NOTEeRESTqREE-
L(E STAFFpORCULUS=RESUP(USrRaI;G, NOTEHEAD DOWN BLACKfWHITEk,FT BLACKfWHITEkR< BLACKfWHITElUP BLACKfR< BLACKfWHITElWHITEs-ROUN
D NOTEHEAD DOWN BLACKfWHITE+hURN=SLASHfUPgWO-L(E STAFFoVIRGAeOID NOTEHEADnWHO, NOTEeRESTjITH F(G*NAILSqX NOTEHEADkZpVScWbY;
M& C:S:;T? MEDI) H~R~W~YAi: MEDI) L~M~NAnSH; MEDI) WA+dD#dZ*Ok,TT* AaIT: RAhUcB>dC>dDAbD>dHAdEaAST*N PWO K&^ GHWAeNNAdYWAvG>cR
EAT SAiH~IaIcJ>dK>aM_ C>dDD>dHAdF~G~H>dJ>dLLAdNAbYAdR~S~TT>eX~ZAjLAbLAdMAb: BBAbEdEbJHAdNGAhNAbG~NAbYAdYAdObP>dRAbUMAI P)AUN
G FAqSAbGAW K&^ SHAnHAaN AbB>dC>dD~F~G>dH~JHAdK>dNAbN~YAdPHAdTHAdZAfWE P)AUNG CHAdSHApSAdTAaI LA(G B>dDAbD>dHAdF~G>dJ>dLLAdNN~
YAmH~T>eUaUcVOC)IC LaLcRaRkWAbEST*N PWO K&^ PWAdTHAvYAiOGOGRAM KHAM_ HMcOAYdQNsMODIFI* ,TT* KHAM_ REDUPLICA_:uSH; REDUPLICA_:+
iSH; D#dZ*OoIGN ;USV&AhSATeDOT |jKHAM_ T:E-1b3nLITT, SEC_:oPAO K&^ T:EoRUMAI P)AUNG T:E-5uSEC_:gH; COUNCIL EMPHA_C T:EnT:E-2b3
oSAWdT:E-2b3b5b6lTAI LA(G T:E-2b5qVIRAMAeS&GAhWEST*N PWO K&^ T:E-1b2b3b4b5+cYMBOL AFOREM^_:EDnIT: EXCLAMA_:l:EdTWOjCOMP,TEDjG^
I_VEiLOCA_VEiSH; EXCLAMA_:l:EpTAI LA(G D#dZ*Ot:E M&K SGAW K&^ HATHIfKE PHO+bVOWEL? AAbIaT: AaIiEa.hGEBA K&^ ImIaIcKAYAH EEcOEc
UhM: IIcOfSGAW K&^ EUmH; A~Ea.hF() YmT)L AAhUaUcVOC)IC LaLcRaRkWEST*N PWO K&^ EUcUE+nN-&Y CIRC,D DOT OP*ATORmPLUS OP*ATORn_ME
S OP*ATORvOPRODUCTj(T*SEC_:mLOGIC) ;DdORkPRODUCThSQU&E (T*SEC_: OP*ATORvUNI: OP*ATORuUMMA_:j_MES OP*ATORoUNI:=OP*ATOR %DOTdPLU
SyWHITE V*_C) B&xABATAE; CRUCIFORM NUMB* FOURv,TT* )EPHeY(eBETHeD)ETHgF() )EPHfBETHeHEcKAPHeLAMEDHgMEMdNUNdSH(eYODHkGIMELfHEaT
HeKAPHeLAMEDHgMEMdNUNdPEcQOPHeRESHeSADHEdMEKHfH(eTAWcETHeWAWdYODHeZAY(mNUMB* FIVEdOURe:E=HUNDREDlT^cHREEeW^TYeOrLAdIL POLISHiR
A?iKbME BADGEiNDa(AG&I HEADSTROKEk,TT* AaAbIbUcB>dC>dDAbD>dHAdEbG>dH~IaIcJ>dK>dLAbLAdM~NAbG~N~YAdObP>dRAbRAdS>cSAdT>cT>eUaUcVA
bOC)IC RaRkYAjSIGN ;USV&AhVAGRAHAiSIDDHAMhVIRAMAeS&GAmVOWEL? AAbIbUcEbIaIcObPRISHTHAMATRA EpUaUcVOC)IC RaR+fRROW NO-BREAK SPAC
Et_:) DIGIT SHAPESmP&KlUSEAT]FACEmZ& AMU,TlBHbSPdECK_EfGAT]DOUB, V*_C) B& DOUB, R< TURNS_,+tIVE ACKNOW,DGElCIRC,D DIGIT Z*OkLA
T( CAPIT) ,TT* @bGbHbIbJbKbLbMbNbObPbQbRbSbTbUbVbWbXbYbZwNUMB* E<E^h,V^gFIFTE^gOURTE^iN(ETE^iSEV^TE^iIXTE^hTHIRTE^hWELVEdNTYnS
QU&EgTRI;G,qDIAG:) CROSSfDIAM:DhMIDD, R< TO LOW* C^TRE+lSQU&]ABcCROSS M&KkICcLAT( CAPIT) ,TT* @bGbHbIbJbKbLbMbNbObPbQbRbSbTbUb
VbWbXbYbZwP~QUES_: M&KnS~WCrITH* A SUBSET OF NOR EQU) TOuP*SET OF NOR EQU) TOzPPROXIMATELY NOR ACTU)LY EQU) TO+jGREAT*-TH; NO
R EQU) TOfIV)^T TOn,SS-TH;+a,SS-TH; NOR EQU) TOfIV)^T TOnGREAT*-TH;+gLbPTUNEa$ TWOoRD FACEhSSUSdT %EGGSk(G DOLLSlUT*cR) CHES
S BISHOP=ROTAT]N(ETY DEGREESoTWO HUNDR]SEV^TY DEGREES+qEQUIHOPP*=ROTAT]N(ETY DEGREES+hK(G=ROTAT]N(ETY DEGREESoTWO HUNDR]SEV^T
Y DEGREES+nN<=ROTAT]FORTY-FIVE DEGREESsN(ETY DEGREESo:E HUNDR]THIRTY-FIVE DEGREES+fTHREE HUNDR]FIFTE^ DEGREES+cWO HUNDR]SEV^T
Y DEGREESpTW^TY-FIVE DEGREES+uPAWN=ROTAT]N(ETY DEGREESoTWO HUNDR]SEV^TY DEGREES+oQUE^=ROTAT]N(ETY DEGREESoTWO HUNDR]SEV^TY DEG
REES+pROOK=ROTAT]N(ETY DEGREESoTWO HUNDR]SEV^TY DEGREES+oTURN]BISHOPgK(GdN<gPAWNeQUE^fROOKrFACEkW L(EeMO: SYMBOLg%FACEoSHEQEL?
lTAI LUE D#dZ*Ok,TT* F() BbDbKbMbNaGcVhHIGH B~D~F~H~KAbVAdL~M~NAbGAdP>dQ~SAbUAdT>cSAdV~XAbVAdYAhLOW B~D~F~H~KAbVAdL~M~NAbGAdP>
dQ~SAbUAdT>cSAdV~XAbVAdYAnSIGN LAEaVjTHAM DIGIT :En:E M&K-1b2lVOWEL? AAaYcEbYcEbIIbYcOaAaYcYcUaEaYcUbYcVOWEL SHORT^*+jA ABBREV
IA_:?rCOMMAfD;DAe#dZ*OjOUB, COMMAfD;DAmGAP FILL*k(S*_:?o,TT* AaAbIbUcB>dC>dDAbD>dHAdEbG>dH~IaIcJ>dK>dL>dM>dNAbG>dH~N~Y>eObP>d
R>dS>cSAdT>cT>eUaUcVEDIC ;USV&AnOC)IC LaLcRaRkW~YAjOMcPLACEHOLD* M&KqS;DHI M&KkIDDHIeGN ;USV&AhVAGRAHAiC;DRAB(DUlF() ;USV&AoJI
HVAMULIYAlNUKTAfUPADHM;IYAlVIRAMAeS&GAmVOWEL? AAbIbUcEbIaIcObUaUcVOC)IC LaLcRaRxL(E ,FTeR<kSPAP*hXT L(EePAGEi< %ST&SoNJAeKO CO
MB((G DOUB, DOT.qL:G DESC^D(G T:EpHIGH T:EjLOW T:EiRIS(G T:EqNAS)IZA_: M&KrSHORT HIGH T:EjLOW T:EiRIS(G T:EyMAfD;TAY);j#dZ*OjO
ROME?lEXCLAMA_: M&KqHIGH T:E APOSTROPHEuLAJ;Y);jETT* AbB~CHAdDAaGBAS(NAkEaEcF~GBAdH~IbJAb:A CHAdJ~RAhK~L~M~NaA=WOLOSOiYA=WOLOS
OkOaOcP~RAbRAdS~T~UbW~YAiOW T:E APOSTROPHEtSYMBOL GBAKURUN^kOO D^N^qTAM;?nLbNBSPeO BICYC,ShREAK H*Ek^TRY=SIGNkMOBI, PH:ESn:E U
ND* E<E^ SYMBOLzPEDESTRI;SkIRACYgSMOK(G SYMBOLp-BREAK SPACEmM() DIGIT SHAPESqSMA?kN-BREAK(G HYPH^pPOTAB, WAT* SYMBOLvFORK(GiRa
DIC M&K?nM) SUBGROUP OF=OR EQU) TO+bTH EAST ;D SOUTH WEST &ROWtRROW=;D SOUTH EAST &ROWuCROSS(G NORTH WEST &ROWqSOUTH EAST &ROW
z%HOOKpBLACK &ROWlDOUB, &ROWmPO(T(G BUDd,AFeV(E ,AFsS;S-S*IF &ROWqTRI;G,-HEAD]&ROW=TO B&+cWHITE &ROWq(DIC FRAC_: :E E<HgH)FeQ
U&T*hSIXTE^THnTHREE QU&T*SiSIXTE^THSzPLACEHOLD* M&KqQU;_TY M&KkRT* M&KmRUPEE M&KqWEST ;D SOUTH EAST &ROWtRROW=;D NORTH EAST &R
OWuCROSS(G NORTH EAST &ROWzTO CORN*gL:G B&l%HOOKpBLACK &ROWlDOUB, &ROWmPO(T(G BUDd,AFeV(E ,AFsS;S-S*IF &ROWqTRI;G,-HEAD]&ROW=T
O B&+cWHITE &ROWrEAST-PO(T(G AIRPL;EzSEcT A SUBSET OFhP*SET OFmLMOST EQU) TOoN E,M^T OFmSYMPTO_C)LY EQU) TOxCHECK M&KkEQU) TOf
IV)^T TOnGREAT*-TH;mID^_C) TOm,SS-TH;jNORM) SUBGROUP OF=OR EQU) TO+eP&),L TOlSIGNdQU&E IMAGE OF OR EQU) TOuORIG() OF OR EQU) T
O+e_LDEeRUEfCH],FT SEMICIRC, %THREE DOTS+eOW* R<-SHADOW]WHITE R<W&DS &ROW+rR< SEMICIRC, %THREE DOTS+gUPP* R<-SHADOW]WHITE R<W&
DS &ROW+wE=PADbGEfBOOK=%DECORA_VE COV*+dULaLcMB* E<E^ FULL STOPr,V^ FULL STOPqFIFTE^ FULL STOPqOURTE^ FULL STOPsN(ETE^ FULL ST
OPsSEV^TE^ FULL STOPsIGNcXTE^ FULL STOPrT^ FULL STOPmHIRTE^ FULL STOPrWELVE FULL STOPnNTY FULL STOPu*O?jSHU CH&ACT*-1B17!b@c8!
b@c9!b@cA!b@cB!b@cC!b@cD!b@cE!b@cF!b@d20!b@c1!b@c2!b@c3!b@c4!b@c5!b@c6!b@c7!b@c8!b@c9!b@cA!b@cB!b@cC!b@cD!b@cE!b@cF!bAbBpIT*
A_: M&KsT ;D BOLTlYIAK^G PUACHUE HM:G CIRC,D CAkD#dZ*Ok,TT* Aa~C~DAbLAdEaEcF~G~HAaHdIbK~L~MAbLAdNAbC~K~PAbLAdQ~R~TAbS~XAdYAdOa
OcPAbLAdQ~RAbRAdS~TAbS~XAdUbV~WbXAbYAdY~ZAiOGOGRAM NYAJnSIGN FOR ;IM)g(V*TEBRATEmLOCA_:iP*S:gTH(GjXW XWjYLLAB, ,NGTH^*tT:E-BbD
bGbJbMbSbV+dOBJECT REPLACEM^T CH&ACT*+aLIQUE ;G, OP^(G DOWNeUPqHYPH^mS*V* EYE SYMBOLsCR AMOUNT OF CHECKpBELT BUCK,kOW _EgR;C
H B;K ID^_FICA_:+aCHAIReUSTOM* ACCOUNT NUMB*xDASHdOUB, BACKSLASHqFORKeHOOKe(V*T]FORKpTAG:)?lOPUSgD^dFFICE BUILD(GoGHAM FEAT
H* M&Km,TT* AILMeBEITHfCEIRTeOLLeDAIReEABHADHfDHADHfMH;CHOLLlFE&NfGORTeIF(dODHADHhLUISeMU(eNGEAD)gI:e:NcRcPEITHfRUISeSAILdTRAI
FgT(NEfUATHdIL,;NhRjREV*S]FEATH* M&KvSPACE M&Ko:EKfHM?hIL DRUMhK H;D?lL CHIKI AHADeD#dZ*OkGAAHLAA TTUDDAAGq,TT* AAJbKbMbWcGbLb
NGcTcEDDcNbPbRRdIHbNYcRbScLAa~EbIbObUcOBbHbTTcVcUCbDbNNcYjMU TTUDDAGi-GAAHLAA TTUDDAAGtPHA&KAAhUNCTUA_: DOUB, MUCAADnMUCAADsRE
LAAmD CH(ESE HOOK M&KjIT*A_: M&KwHUNG&I; CAPIT) ,TT* AaAbKbMBcNDdCLOSE EhEaBbCaHbScDbEbFbGaYcHbJbKbLaYcMaPcNaCbTa-SHAPED?nYcPb
RbSaZcTaYcVbZaSdIaIcNIKOLSBURG OEcUEnOaEEcOcRUDIM^TA OEcUEmSHORT *iUaNKcSbUrNUMB* FIFTYdVEe:E=HUNDREDhTHOUS;DmT^kSM)L ,TT* AaA
bKbMBcNDdCLOSE EhEaBbCaHbScDbEbFbGaYcHbJbKbLaYcMaPcNaCbTa-SHAPED?nYcPbRbSaZcTaYcVbZaSdIaIcNIKOLSBURG OEcUEnOaEEcOcRUDIM^TA OEc
UEmSHORT *iUaNKcSbUzIT)IC ,TT* AbBEcCHEdDEcEaFbKScLbMbNbRaScSaHbSdHEcIaIcKAbEbHEcUcNORTH*N TSEmObPEbHEdSHEcOUTH*N TSEmTEbHEdUa
UcVEcYEcZEjNUM*) FIFTYdVEe:EdT^sKEYdNORTH &ABI; ,TT* A(c,FeBEHdDADbLdES-1b2b3eFEHdGEEMdHA(fHAHcEHdKAFcHAHeLAMdMEEMeNO:eQAFdREH
dSADdTAHcEHcH)cEHeWAWdYEHdZAHb(lNUMB* :EdT^cW^TY+bP*MIC ,TT* ;cBURdCH*YfDOIcZHOIdITAfEaFcGAIdH~IaAbEcKOKEe,IdM^OEfN^OEfOaOcPEE
IeREIdSHCHOOIfOOIeIIdTAIcSIUeUbV*cOOIeYAaTc*aIbUdRYcUcZATAdHOIpSI; NUMB* HUNDREDh:EdT^cW^TYeOkSIGN AaURAMAZDAAa-2cHAmBAaGAdUUM
ISHhC~DAaHYAAUSHa-2kIbUcF~GAbUcH~IbJAbIcKAbUcL~MAbIbUcNAbUcP~RAbUcS>cSAdT>cUcUbVAbIcXAbSHAAYATHIYAmY~ZAhWORD DIVID*q:) COMPUT*
rSOGDI; FRAC_: :E H)Fr,TT* )EPHdT*NATE AY(nY(eBETHeF() )EPHfBETHeHEcNUN=%V*_C) TAILwSADHE=%V*_C) TAILyTAW=%V*_C) TAIL+cGIMELfH
EaTHeKAPHeLAMEDHgMEMdNUNdPEcRESH-AY(-D)ETHqSADHEdMEKHfH(eTAWdWAWdYODHeZAY(lIGATURE AY(-D)ETHuNUMB* FIVEdOURe:E=HUNDREDlT^cHIRT
YeREEeW^TYeOqUTH &ABI; ,TT* )EFdYNdBETHeD)ETHfHADHEd,THhFEcGHAYNeIMELfHEaTHeKAPHdHETHfLAMEDHgMEMdNUNdQOPHeRESHeSADHEdMEKHeTcH(
eTAWcETHdHAWcETHfWAWdYODHeZAYNlNUMB* FIFTYf:Eh*IC (DICATOR+fTURKIC ,TT* ORKH: AaBbDbEBbDbGbKbLbNbRbSbTbYcGbLbNbQbRbSaHcTbYcBAS
HeECbLTcMbNCbGbTbYcPbSHcZcIaCbQcOaEaKcPbQbTjY^ISEI AaBbDbEaBbGbKbNaGcTbYcGbLbNGcQbRbSHcTbYcEaCbNCbTbYcSHcZcIaQcOEaKcQyUYGHUR C
OMB((G DOT.f|jTWO DOTS.f|y,TT* )EPHfBETHeF() HETHkGIMEL-HETHkKAPHeLAMEDHfESHeMEMdNUNdPEcRESHeSADHEdMEKHfH(eTAWdWAWdYODHeZAY(mP
UNCTUA_: B&dFOUR DOTSjTWO B&SeDOTS+c* ADULTfM;dWOM;jIVEeM SYMBOLiN %EXCLAMA_: M&K %,FT R< &ROW.+yCOM(G AUTOMOBI,kBUSdFIRE ^G(E
lPOLICE C&kTAXIlE BUTT: MOUSEmDOT ,AD*gOV* TWO DOTS PUNCTUA_:+e-PIECE SWIMSUITqI:eP^ BOOKcXdC^TRE AST*ISKiBLACK ST&kCROSSfTE&D
ROP-SPOK]AST*ISK+fFI, FOLD*kOLD*gH;DS?kLOCKeMAILBOX %LOW*]FLAGmRAIS]FLAGySUBSETeP*SETj-CIRCUIT-OUTPUT H-TYPE SYMBOLnL-TYPE SYM
BOL+cOUTL(]R<W&DS &ROW+bRAT(G SYSTEM COMM;DwHIUCHUShPOSI_:i_C) DISC=IC:n: KEYjR %DOT (SIDEq;GE BOOKeHE&ThUT;hIG() OFiYA AI ,NG
TH M&KnU ,NGTH M&KoD#dZ*OkFRAC_: :E E<HgH)FeQU&T*hSIXTE^THnTHREE QU&T*SiSIXTE^THSzISSH&g,TT* AaAbIbUcB>dC>dDAbD>dHAdEbG>dH~IaI
cJ>dK>dLAbLAdM~NAbG~N~YAdObP>dR>cRAdS>cSAdT>cT>eUaUcVAbOC)IC LaLcRaRkW~YAbYAkSIGN ;USV&AhVAGRAHAiC;DRAB(DUlNUKTAfOV*L(EiVIRAMA
eS&GAmVOWEL? AAbIbUcEbIaIcObUaUcVOC)IC LaLcRaRzNATE ,FT P&^THESISqR< P&^THESISwTHODOX CROSSnSAGE CAPIT) ,TT* AaHbIaNdBRAdCHAdD
HAdEaHCHAdK~P~TAbSAe(dGHAdHAbYAdIbK>cYAdL~M~N~Oa(dP~S>dTAbS>eUbW~Z>sSM)L ,TT* AaHbIaNdBRAdCHAdDHAdEaHCHAdK~P~TAbSAe(dGHAdHAbYA
dIbK>cYAdL~M~N~Oa(dP~S>dTAbS>eUbW~Z>uCbM;YA D#dZ*Ok,TT* AaAb,FeB~CAYNeDEELdHAdEaEcF~G~H~IbJ~KAAFdHAdLA;eMI(eNUUNeOaOcQAAFeR~SA
bHI(fT~UbWAWdX~YAqTT*cOM; SIYAQ )T*NATE NUMB* E<fFIVEdOUR=HUNDREDmN(EeSEV^eIX=HUNDREDlT^=THOUS;DlHREEeWO=THOUS;D+dFRAC_: :E H)
FeSIXTHsM&RAT;iNUMB* E<=HUNDREDhTHOUS;DjY=THOUS;DpFIFTY=THOUS;DmVE=HUNDREDhTHOUS;DmORTY=THOUS;DmUR=HUNDREDhTHOUS;DnN(E=HUNDRED
hTHOUS;DjTY=THOUS;Dp:E=HUNDREDhTHOUS;DmSEV^=HUNDREDhTHOUS;DjTY=THOUS;DpIX=HUNDREDhTHOUS;DjTY=THOUS;DoT^=THOUS;DlHIRTY=THOUS;Dn
REE=HUNDREDhTHOUS;DnW^TY=THOUS;DnO=HUNDREDhTHOUS;D+gUNCE?iTBOX TRAYiL(]BLACK ST&kGREEK CROSSlLAT( CROSSlWHITE ST&sV*HEAT]FACEl
LAPaP(G BLACK SQU&ESnWHITE ;D BLACK SQU&ESrSQU&ESu(EhWLcXbYST*gPACKAGEfDaD(G CH&ACT*pGE=FAC(G UPj%CIRC,D TEXTlURLkRbScODAeHAW
H HM:G CL;? FAJdHAMbWJeKHABdOOcWMdLAUJdISdMUASePHABeTHOJdSABcHEEJeWBeVAJcWJdXYOOJfYAJcEEGn:S:;T AUcCAUcHAUeHAUcLAUdNAUeLAUdMAU
dNAUcCHAUeKAUdLAUdTHAUdSAUfPLHAUfQHAUeRAUdVAUdXAUdYAUnD#dZ*OkM&K CIM HOMdKEScHAVeSObUAMeTAUMdUBmNUMB* HUNDR]MILLI:SjSiMILLI:Si
T^ BILLI:SiTHOUS;DSkSdRILLI:SqSIGN AVcCIM CHEEMeUAM TSHOOJlHAIS LUS NTOG NTOGsNRES TOSiPUB DAWBiTSOV ROGhXWV=CHWVnHLIcNUBeIB Y
AMgLOSdMEEJ SUABeTSEEBjUSdNQIGdTUJeTAUcHIRD-STAGE HLIoXHEEJ CEEVlVOS FEEMeLUBdNRUAeSEEVeTHIABdOMdSHAB CEEBoXAUSdIABdYEEM FAIBe
NTXIVfRHOdTOVhOOeZWJ THAJnVOWEL KAABbVcBbIBbVcUBbVcVbWBbVdEBbEBbVcVcIABbVcBbVcOBbOBbVcVcUABbVcBbVcWBbVuLLASdM BR;CHgDOWN H;DjT
REEeUP H;DiS UP TOGETH*nYR^E ,FT-PO(T(G F,UR:tTT* )EPHeY(eBETHeD)ETHgF() NUNjGIMELfHEaTHeKAPHeLAMEDHgMEMdNUNdPEcQOPHeRESHeSADH
EdMEKHfH(eTAWcETHeWAWdYODHeZAY(mNUMB* FIVEdOURe:EdT^cHREEeW^TYeOkR<-PO(T(G F,UR:+eNCAKESfDA FACEiP*CLIPhRACHUTEfGRAPH SEP&ATOR
kOScUS M&KmL,L TOc%HORIZ:T) STROKEr_LDE OP*ATORz^THESIZ]D#jH;GUL CHIEUCH=AiIEUC=AbUhHIEUH=AhIEUNG=AhKHIEUKH=AiIYEOK=AiMIEUM=Ah
NIEUN=AhPHIEUPH=AiIEUP=AhRIEUL=AhSIOS=AgTHIEUTH=AiIKEUT=ApIDEOGRAPH )LI;CEiC)Ld:GRATULA_:oE&THe<eNT*PRISEkFES_V)h(;CI)hREcVEdO
UReHAVEeLABORfMET)eO:eNAMEd(Ee:EdREACHdPRES^ThSOURCEfTeSELFcV^eIXcOCIETYgPECI)gTOCKdUDYeUNbP*VISEjT^cHREEeWOdWAT*eOODoKORE; C
H&ACT* O HUdJE:wLAT( CAPIT) ,TT* @bGbHbIbJbKbLbMbNbObPbQbRbSbTbUbVbWbXbYbZqSM)L ,TT* @bGbHbIbJbKbLbMbNbObPbQbRbSbTbUbVbWbXbYbZ
uNUMB* E<E^h,V^gFIFTE^gOURTE^iN(ETE^iSEV^TE^iIXTE^hT^cHIRTE^hWELVEdNTYyROTdT )T*NA_: M&KrI) DIFF*^_)mL(E BACKW&DiDOWNeFORW&DhU
PiLY-RECYC,D PAP* SYMBOL+bN*SHIP?mY POPP*kSS]SYMBOLiNG* SHIPkIVE-PULL-DOWN-OUTPUT SYMBOLsUP-OUTPUT SYMBOLzPORT C:TROLoU C( HA
U GLOTT) STOP=F()fV&I;Tu,TT* AbB~C>dD~EbFAb() KbLbMbNaGcPbTbWbYhG~H~Ia~K>dL~M~NAbGAdObP>dR~S~T>dUa~V~ZAiOW-F)L(G T:E=F()fL:G=
F()+bMID-,VEL T:E=F()fL:G F()zRIS(G T:E=F()fL:G=F()wS;DHI GLOTT) STOP=F()sT:E=F()fL:G=F()+gW PR(TSjDFbIcEACE SYMBOLiHbOCKeNUTS
eRcDESTRI;iN OV* STAMP]^VELOPEwCILdGU(eSIVE FACEjTAGRAMhOP, HUGG(GmR MIL,?kSIGNeT^ THOUS;D?sC^T?jFORM(G &TSmM;^T PAP*?rP^DICU
L&=%SrSEV*(G FACEm: BOW(G DEEPLYnCLIMB(GiDO(G C&TWHEELpFROWN(Gi( LOTUS POSI_:oSTEAMY ROOMoRAIS(G BOTH H;DS ( CE,BRA_:+h%B)LdL:
D HAIRkCROWNfFOLD]H;DSmHEADSC&FjPOUT(G FACEs) COMPUT*nPEC_VEjSETA?iO?hTRI DISHjHAGS-PA DOUB, HEAD M&Kq,TT* AaLT*NATE YAlSPIRA
T]FAmB~CAaNDRAB(DUkHAdDAbD~ZAdEaEcF~GAbGAdH~IbJ~K>dL~M~NAbG~N~YAdObP>dQ~R~S>cM)L AhT>cS>dT>eUbVOIC]HAe,SS SHAnW~X~Y~Z>kM&K DOU
B, SHADlSHADjS(G, HEAD M&KpUBJO(],TT* R~W~YArP*FIX],TT* RA+aISTOS DISC? &ROWfBEEaHIVEgOOM*;GhWcULLS ,GjCAP_VEfRP^TRY PL;EnTcHI
LDeLUBdOLUMNeMBa((G OBLIQUE STROKEyDOLIUMeVEeEAG,fFLUTEfGAUNT,ThRAT*gHELMETfIDEdORNeLIDbLYeM;AC,SgTTOCKhOX BACKhPAPYRUSgEDESTR
I;jL;E TREEiUM]HEADlRAMcOSETTEhSAWcHIELDdPdL(GeM)L AXEiTRA(*iTATTOO]HEADmI&AeUNNYfV(EeWAVY B;DiOM;wILIPP(E DOUB, PUNCTUA_:sS(
G, PUNCTUA_:+bO^ICI; ,TT* A(cLFdBETdDELTeGAMLeHEaTdKAFdLAMDeMEMdNUNdPEcQOFdROSHeSADEdEMKdH(eTAUcETdWAUdYODdZAIkNUMB* :E=HUNDRE
DlT^cHREEeW^TYeOkWORD SEP&ATORwLUSfICKaUP TRUCKkEbG=FACEeNOSEgLCROW?jE OF POOiLcNATAdCH]F(G*Sk(G H;DkE DECORA_:lAPP,gWHEEL ST&
lSCESdTOLeTCHFORK=%TEE TOPvLAC&DdE OF (T*EST?nWORSHIPnNCK C:ST;T=OV* TWO PIyYGROUND SLIDEm(G C&D ACE OF CLUBSfDIAM:DSiHE&TSgSP
ADESnBACKdLACK JOK*lE< OF CLUBSfDIAM:DSiHE&TSgSPADESpFIVE OF CLUBSfDIAM:DSiHE&TSgSPADESnOOLcUR OF CLUBSfDIAM:DSiHE&TSgSPADESoJ
ACK OF CLUBSfDIAM:DSiHE&TSgSPADESoK(G OF CLUBSfDIAM:DSiHE&TSgSPADESnN< OF CLUBSfDIAM:DSiHE&TSgSPADESqN(E OF CLUBSfDIAM:DSiHE&T
SgSPADESoQUE^ OF CLUBSfDIAM:DSiHE&TSgSPADESpR]JOK*jSEV^ OF CLUBSfDIAM:DSiHE&TSgSPADESoIX OF CLUBSfDIAM:DSiHE&TSgSPADESnT^ OF C
LUBSfDIAM:DSiHE&TSgSPADESmHREE OF CLUBSfDIAM:DSiHE&TSgSPADESoRUMP-1a!c2a0b1c3b4b5b6b7b8b9gWO OF CLUBSfDIAM:DSiHE&TSgSPADESnWHI
TE JOK*wDbUaNG*eS?a. EQU)S?r( ,FT H)F CIRC,qR< H)F CIRC,rTRI;G,l%BLACK TRI;G,oCIRCUMF,X ACC^T.xDOT |jSM)L CIRC,.rUBSCRIPT TWO
n_LDE.f|w-M(US?mTOa$ FIVEdOUReTHREEeWOnMbOCKET C)CULATORpLICE C&aS REVOLV(G L<uOFFIC*mOD,eP DIREC_:)$ATT(GkISOLATEuCORNfRTA
B, ST*EOnSEID:fI_: (DICATORpT) HORNeM&K=FACEmBOXfT OF FOODiAB, WAT* SYMBOLqTOdT]PL;TkUCHcLTRY ,GiND?hR(G LIQUIDlT(G CAT FACEiF
ACEkW* : SYMBOLh-OFF SYMBOLnS,EP SYMBOLlYMBOLlRAY* BEADSkECEDESa. )MOST EQU) TOpEQU)S?lNOT )MOST EQU) TOpEQU) TOmS(G,-L(E EQU)
S?lNOT EQU) TO+eBUT NOT EQUIV)^T TOvOR EQU) TOfIV)^T TOqUND* RELA_:uGN;T M;dP*S:gWOM;lSCRIP_: TAKEn^TA_:$ FOR V*_C) COL:dMMAfE
M DASHgN DASHgXCLAMA_: M&KqHORIZ:T) ELLIPSIStIDEOGRAPHIC COMMAfFULL STOPv,FT ;G, BRACKETnBLACK ,N_CUL& BRACKETyCORN* BRACKETnU
RLY BRACKETnDOUB, ;G, BRACKETuP&^THESISlSQU&E BRACKEToTORTOISE SHELL BRACKETwWHITE CORN* BRACKETo,N_CUL& BRACKET+cOW L(EiQUE
S_: M&KnR< ;G, BRACKETnBLACK ,N_CUL& BRACKETyCORN* BRACKETnURLY BRACKETnDOUB, ;G, BRACKETuP&^THESISlSQU&E BRACKEToTORTOISE SHE
LL BRACKETwWHITE CORN* BRACKETo,N_CUL& BRACKETeKCET+eSEMICOL:jTWO DOT ,AD*oWAVY LOW L(E+pTZELeVIOUS PAGElIMEcNCEaSSeT SCRE^ SY
MBOLo*=IC:jVACY MESSAGEkTE USE :EdTWOe-1b2lOB(G C;EjHIBITED?mJEC_VEhP*TY L(EjOR_:a) TOmS*P(AjS)T* PAHLAVI FOUR DOTS %CROSSfDOT
s,TT* )EPHfBETHeD)ETHgGIMELfHEaTHeKAPHeLAMEDHgMEM-QOPHiNUNdPEcSADHEdMEKHfH(eTAWdWAW-AY(-RESHnYODHeZAY(mNUMB* FOURe:E=HUNDREDl
T^cHREEeW^TYeOkSEC_: M&KmTURN]SEC_: M&K+iU1b2bBLIC ADDRESS LOUDSPEAK*yNCTUA_: SPACElS E,VATUS M&KtRP, HE&TjSEdSHP(fT LITT* ( I
TS PLACE SYMBOL+eQUADR;T LOW* ,FTeR<lUPP* ,FT=;D LOW* ,FT ;D LOW* R<uR<lUPP* R< ;D LOW* ,FTeR<+kR<=;D LOW* ,FT=;D LOW* R<+uU
P, (TEGR) OP*ATORrPRIMEmRT* NOTEjT*NI: (TEGR) OP*ATOR+aES_: EXCLAMA_: M&KqM&Kf]EQU) TOr(CUNXgOTA_: M&KoRABBIT=FACEjCCO:e(G C&d
MOTORCYC,pDIC) SYMBOL BOTTOMrO=BUTT:hAC_VE?oILWAY C&dTRACKkNaBOWeS]BACK OF H;DmCOMMAfDOTaT](T*POLA_: M&K*+bFISTeH;D=%F(G*S SPL
AYEDpP&T BETWE^ MIDD, ;D R(G F(G*S+u(T*POLA_: M&K*uMC?gD?gR?hSQU&ElMbTaIOdZOReECEIPTeORD SEP&ATORnREA_:) VEHIC,rYC,D PAP* SYMB
OLp(G SYMBOL FOR G^*IC MAT*I)SrTYPE-1 PLAS_CSk2 PLAS_CSk3 PLAS_CSk4 PLAS_CSk5 PLAS_CSk6 PLAS_CSk7 PLAS_CS+iD APP,fGIFT ^VELOPE
pF*^CE M&KmGI:) (DICATOR SYMBOL ,TT* @bGbHbIbJbKbLbMbNbObPbQbRbSbTbUbVbWbXbYbZ+eST*ED?nJ;G C:S:;T? HbNaGcRq,TT* AbB~C~D~G~H~J~
K~L~MAbBAdNAbD~GAbGAdYAbJAeP~R~S~T~W~YAjSEC_: M&KmVIRAMAfOWEL? AIbUcEaAbUcIbObUrLIEV]FACElM(D* RIBB:nPLACEM^T CH&ACT*tSP:SEfTR
ICT],FT ^TRY-1b2sOOMgTURN ,FTeR<fSYMBOLlV*SE CHECK* BO&Dn(DEXfL< FOUR PO(T]P(WHEEL ST&+eNE FEEDjSOLIDUS=OP*ATORiPRECED(G SUBSE
Tq%HORIZ:T) STROKE+e_LDE OP*ATOR. ,FTW&DS &ROWpR<W&DS &ROW+mD ;G,=%UND*B&tCOMMAfDOUB, PRIME=QUOTA_: M&KuSTROKE NOT?wEMPTY SETj
FORK]P&AGRAPHOSsH;D %MIDD, F(G* EXT^DED+gNOT?iPILCROW?lRIMEfQUES_: M&KnRAIS]H;D %F(G*S SPLAYED+f< ;G,kOTAT]FLOR) HE&T BUL,T+b
S;S-S*IF CAPIT) LtEMICOL:jTHUMBS DOWN?jUP?nILDE=EQU)SlRIP, PRIMEmVICTORY H;DsOLV(G HE&TSpH(OC*OSjIa)?hBB:=&ROW DOWN ,FTeR<k,F
T DOWNeUPhR< DOWNeUPiUP ,FTeR<tCE B)LeCRACK*kF,dGHT ;D LOW* :E E<H BLOCKwUPP* :E E<H BLOCKyG* BUBB,j,=BRACKET=%DOTqDOTT]SUBS_T
U_: M&K*+aSUBS_TU_: M&K*tV&I;T %SQU&Et%&CdDOWNW&DS ZIGZAG &ROW+gRC GREAT*-TH; BRACKETwROW %CIRC,D PLUSmSM)L CIRC,xBLACK ,N_CU
L& BRACKETsTORTOISE SHELL BRACKET+cCEIL(GgORN* BRACKETnURLY BRACKET=LOW* HOOKkMIDD, PIECEmUPP* HOOKyDOTT]SUBS_TU_: BRACKETzU
B, ;G, BRACKETmRROW %ROUND]HEADxP&^THESISlQUOTA_: M&KoWIGGLY F^CEtFISH TAILhVE E<HS BLOCKrLOORfH)F BLACK CIRC,gST&iOCKfFOLD*gM
EDIUM SHADEmRUNN(G M;oND TE,PH:E RECEIV*xLOW P&APHRASE BRACKETwNORM) FACTOR SEMIDIRECT PRODUCT+g:E E<H BLOCKmQU&T* BLOCKqP^ SQ
U&]DOTpUT* JO(kP&^THESIS=EXT^SI:jLOW* HOOKkUPP* HOOKwRAIS]OMISSI: BRACKETxS-SHAP]BAG DELIMIT*vEMIDIRECT PRODUCTqV^ E<HS BLOCKs
IDEWAYS U BRACKETqNG, QUOTA_: M&KuPEAK*=%:E SOUND WAVEoTHREE SOUND WAVES+bECH BUBB,mQU&E BRACKET=EXT^SI:jLOW* CORN*mUPP* CORN*
m%DOUB, STROKEnQUILLfSTROKEg_CK ( BOTTOM CORN*nTOP CORN*sUND*B&+bUBS_TU_: BRACKETuTACKdHIRD WHITE R< PO(T(G (DEX+eOUGHT BUBB,m
REE E<HS BLOCKnQU&T*S BLOCKtORTOISE SHELL BRACKETvR;SPOSI_: BRACKETtI;G,a. ,FT TRI;G,wUL& :E QU&T* BLOCK+cV*_C) B& %QUILLnO
X L(ErWHITE CORN* BRACKETnURLY BRACKETn,N_CUL& BRACKETsP&^THESISlSQU&E BRACKEToTORTOISE SHELL BRACKET+bIGGLY F^CEn-FAC(G &M^
I; ET*NITY?wFISTeSVAS_?=%DOTS+cH;D](T*LAC]P^TAGRAM+bPO(T(G ;G, BRACKETnCURV];G, BRACKETuDOUB, ;G, QUOTA_: M&K+bMAGNIFY(G GLASS
zSHAD]WHITE R<W&DS &ROW+cIDE &C CLOCKWISE &ROWyTO-,FT EMBEDD(GjISOLATEhM&KeOV*RIDErH;D (T*IOR PRODUCTvW&DS &ROWa. )MOST EQU) T
OpREV*SE )MOST EQU) TOp_LDE OP*ATORwSHORT ,FTW&DS &ROWv_LDE OP*ATORtND UPP* ;D LOW* :E E<H BLOCK+kFROM B&=TO BLACK DIAM:DzO
V* ,FTW&DS &ROWuTHROUGH GREAT*-TH;mSUP*SETiXiO B&cLACK DIAM:Dq%CORN* DOWNW&DSqDOTT]STEMjUB, V*_C) STROKEwEQUILAT*) &ROWHEADvHO
OKeL&GE TRI;G, &ROWHEADxOOPeMEDIUM TRI;G, &ROWHEADzNOTCH]TAILmPLUS |kSM)L EQUILAT*) &ROWHEADvTRI;G, &ROWHEADxTROKEgTAIL=%DOU
B, V*_C) STROKEwV*_C) STROKEyIP DOWNW&DSjUPW&DSlV*_C) STROKEv-TAILkBACK-_LT]SHADOW]WHITE &ROW+fLACK &ROWfCIRC,D WHITE &ROWyOTT
OM SHAD]WHITE &ROWzCOMPRESS]&ROWqDASH]&ROWlOUB, &ROW=FROM B&i%STROKEgV*_C) STROKEv-TAILkDASH &ROWrF(G*-POST &ROWqR:T-_LT]SHADO
W]WHITE &ROW+hH;DcRPO: OV* ,FTW&DS H&PO:w%B&B DOWN. ,FTW&DS H&PO: %B&B DOWN+m| L:G DASHpFROM B&iTO B&hW&DSjUP. ,FTW&DS H&PO: %
B&B UP+d:G DASHjR<W&DS H&PO: %B&B DOWN+nFROM B&iTO B&hW&DSyEAVY &ROWfCOMPRESS]&ROWw,FT-SHAD]WHITE &ROWxOP^-HEAD]&ROWrPAIR]&ROW
SnQUADRUP, &ROWpR<-SHAD]WHITE &ROWxOCKETgS;S-S*IF &ROWpQU&]&ROWkIGG, &ROWoTOP SHAD]WHITE &ROWvRI;G, &ROWHEADk-HEAD]&ROW=OV* ,F
TW&DS TRI;G,-HEAD]&ROW+kTO B&g%BOLD SHAFTkDOUB, HORIZ:T) STROKErV*_C) STROKEwHEAVY SHAFTlL:G _P DOWNW&DSjUPW&DSqMEDIUM SHAFTm
N&ROW SHAFTmV*Y HEAVY SHAFT+bDASH]&ROWmPAIR]&ROWS+aP, &ROWfDASH &ROWqWO HEAD]&ROWn-HEAD]&ROW FROM B&i%DOUB, V*_C) STROKEwTAI
L=%DOUB, V*_C) STROKEwV*_C) STROKEyRI;G, &ROWHEADStV*_C) STROKE+aTRIP, DASH &ROW+cWAVE &ROWjHITE &ROW=FROM W)LjWITH( TRI;G, &R
OWHEAD+uNGa.fBUOYeEQU) TOi( EQU) TOlOP*ATORiPO(Tg]PL;ETj(G BELLkS(G DIAG:) CROSS(G F)L(G DIAG:)qSOUTH EAST &ROW+o,bIbMbOcOAST]
SWEET POTATOsBOT FACEiCKaETeLL OF PAP*jED-UP NEWSPAP*oR COAST*hSKATEi(G : THE FLOOR LAUGH(G+bM; AS?hC^TURI)?oD^&IUS?mIMIDIA SE
XTULA?tUP:DIUS?oNUM*) E<e,V^gFIFTY=E&LY$kTHOUS;DmVE=HUNDREDhTHOUS;DmOUReN(Ee:E=HUNDRED=THOUS;DqTHOUS;D=C DqREV*S]:E HUNDREDuSE
V^eIX=LATE$nT^=THOUS;DlHREEeWELVEeOlQU(&IUS?oSEMUNCIA?lST*_US?nXT;S?iULA?lILIQUA?mUNCIA?oOST*fSEaTTEfTAT]CAPIT) QjFLOR) HE&T B
UL,TtHEAVY BLACK HE&T BUL,TyL< FOUR PO(T]BLACK CUSP+dWHITE FOUR PO(T]CUSP+dUND PUSHP(hT&GETh]SYMBOL FOR CAIdFUcLUcSHOUcU;GXIiX
ItWBOATgSbUB,?iGBY FOOTB)Lm,-DELAYEDkMI D#jFRAC_: :E H)FeQU&T*hTHIRDjTWO THIRDStNUMB* E< HUNDREDiYgFIFTYdVE HUNDREDlORTYdUR HU
NDREDmN(E HUNDREDiTYg:E HUNDREDlSEV^ HUNDREDiTYgIX HUNDREDiTYfT^cHIRTYeREE HUNDREDmW^TYeO HUNDREDvNIC &LAUG SYMBOLnBELGTHOR SY
MBOLpCROSS PUNCTUA_:r,TT* AC AdESCdLGIZ EOLHXkNSUZ AhB*K;; BEORC BJ&K; ByCa)CdE)CdNcWEORTHhDaAGAZ DAEG DlOTTED-LbNbPiEa&cHWA
Z EH EjNGcTHdFEHU FEOH FE FnR;KS CASKET ACbESCeEHcIScOSqGa&cEBO GYFU GjRdHAEGL HfGLAZ HiICEL;DIC-YRlNGaWAZfORcSAZ IS ISS ImWA
Z EOHiJ*; JhKaAUN KcAfLAUKAZ LAGU LOGR Lr:G-BR;CH-& AEfHAG)L HiMADR MgOSS OfYRoM;NAZ M; MmNAUDIZ NYD NAUD NrOaEbNbObP^-PfS OdT
H); ETHEL OpP*THO PEORTH PpQbRAIDO RAD REID RqSHaORT-TWIG-& AeBJ&K; BjHAG)L HiMADR MgNAUD NgOSS OfSOL SfTYR TfYRmIGEL L:G-BR;C
H-SOL SwOWILO ShT;eTHURISAZ THURS THORNtIWAZ _R TYR TpURUZ UR UjVbWaUNJO WYNN WmXbYaRcZiMUL_P, PUNCTUA_:uS(G, PUNCTUA_:sTVIMAD
UR SYMBOLsN*c(G SHIRT %SASHvPEE?iSSI; ASTROLOGIC) SYMBOL B(OVI,iNOVI,gQU(_,iS^TAG:iTREDECI,jVIG(_,+lS ( TRI;G,mAFETY P(dVESTjG
ITT&IUSjILBOATgKE BOTT, ;D CUPrLT SHAK*hIREeUT(G FACElM&IT; ABBREVIA_: M&Kr,TT* )AFeBA~ITdD)ATfFIcGAM;f(bTbYcKAAFeLABATfMIMdNU
NdQUFdRISHeSH;d(GAAThTAAFdITcSAADIYhYUTdZ^kM&K DAGESHgEP^THE_C YUTo(a-)AFhNEQUDAAhOCCLUSI:nODIFI* ,TT* EP^THE_C YUToIbSHORT Ax
PUNCTUA_: AFSAAQfNGEDdNAAUfRKA;UgTMAAUgBAUdMELODIC QITSAnNEQUDAAhQITSAfSHIYYA)AAjOF MASHFAATmTURUeZAEFdIQAArVOWEL? Aa~EbIbL:
G Aa~EbIbUgOaV*L:G AaAlSHORT AgUKUNfUuNDWICHfS-S*IF HEAVY DOUB, COMMA QUOTA_: M&K ORNAM^T+dTURN]COMMA QUOTA_: M&K ORNAM^T+rLO
W DOUB, COMMA QUOTA_: M&K ORNAM^T+u(T*ROB;G ORNAM^T+dRIcTELLITE=;T^NAoURNeURASHTRA C:S:;T? HA&UuD;DAe#dZ*OjOUB, D;DAm,TT* AaAb
IbUcB>dC>dDAbD>dHAdEaEcG>dH~IaIcJ>dK>dLAbLAdM~NAbG~N~YAdOaOcP>dR~S>cSAdT>cT>eUaUcVAbOC)IC LaLcRaRkYAjSIGN ;USV&AiC;DRAB(DUlVIR
AMAeS&GAmVOWEL? AAbIbUcEaEcIaIcOaOcUaUcVOC)IC LaLcRaR+cOPODgXOPH:EiC)ESdRFdHOOL=SATCHELmIbOOT*eRPI:cUSgRE^cWDRIV*iIPT CAPIT) B
bEbFbHbIbLbMbPbRjLIGATURE ET ORNAM^TuSM)L EbGbLbOlOLLdUP,gE)bTcC:D PLACE MED)p_:?iOReDNAdE-NO-EVIL M:KEYpDL(GgGM^Ta]D#dZ*OsLFI
EeMICOL:fDIRECT PRODUCT %BOTTOM CLOSED+hSEX_,jP&AT]SYMBOLoRIOUS FACE %SYMBOLS COV*(G MOUTH+lVICE M&KkSAME DOThQUIQUADRATEmT M(
USfTR;SMIT STATEqW(G NEED,lX_,gGCcHADOW]WHITE CIRC,gLAT( CROSSlST&qLLOW P; OF FOODqMROCKfRADA ABBREVIA_:?rC:T(UA_:?rD;DAe#dZ*O
jOUB, D;DAmEKAMdXTRA SHORT VOWEL M&KwHEADSTROKEk,TT* AaAbIbUcB>dC>dDAbD>dHAdEbG>dH~IaIcJ>dK>dLAbLAdM~NAbG~N~YAdObP>dR~S>cSAdT>
cT>eUaUcVAbOC)IC LaLcRaRkYAjOMcS;DHI M&KkEC_: M&K-1b2mP&ATORiIGN ;USV&AhVAGRAHAiC;DRAB(DUl(V*T]C;DRAB(DUuJIHVAMULIYAlNUKTAfSID
DHAMhUPADHM;IYAlVIRAMAeS&GAlUTRA M&KkVOWEL MODIFI* M&KnSIGN AAbIbUcEbIaIcObPRISHTHAMATRA EpUaUcVOC)IC LaLcRaRzKcV]ICEgI; ,T
T* ADOcGEcHbIRcREbRAYeSHcWEdBIBdCHURCHgDEADeE&bTcGGcRRdFEEdGAGdHA-HAeUNGeI;cCEcFcJUDGEfKICKeLOLLeMEASUREgIMEeNUNdOAKcILcNbOZEd
RbUTdPEEPeRO&eSObUREeTHEYcIGHeOTdUPcVOWdWOEbOLeYEAbWdZOOqEEPdIELDdFT (cOUTgNTO SHR(EkPcOCK]FACE %EXPLOD(G HEAD+dOT(G ST&kPP(
G BAGSeTROL,YnRT BACKSL;T]SOUTH &ROWw^T &ROW PO(T(G DOWNW&DS TH^ NORTH EAST+tDOWN TACK=%OV*B&w,FT TACKjR<W&DS &ROW. ,FTW&DS &R
OW+mSL;T]NORTH &ROWtUP TACKa. SHORT DOWN TACKv%UND*B&wCAKEeH;D$AT C:T(U(G OV*LAPsDOWN STEPj,TT* OV*LAPoUP STEPtSdULD*]OP^ BOXq
W*eRIMPdUGdUFF, PRODUCTnYcIaDDHAM D;DAeOUB, D;DAm^D OF TEXT M&Kq,TT* AaAbIbLT*NATE UkUcB>dC>dDAbD>dHAdEbG>dH~IaIcJ>dK>dL~M~NAb
G~N~YAdObP>dR~S>cSAdT>bREE-CIRC, )T*NATE IxT>dWO-CIRC, )T*NATE IaIxUaUcVAbOC)IC LaLcRaRkYAjREPE__: M&K-1b2b3rSEC_: M&K DOU
B, R(G=%RAYSv%CIRC,S ;D FOUR ^CLOSURESpRAYSeTWO ^CLOSURES+aDOUB, CRESC^TSqQUADRUP, CRESC^TStRAYS ;D DOTT]CRESC^TSjDOUB, CRESC^
TSqTRIP, CRESC^TS+gSEPTUP, CRESC^TSsTRID^T ;D DOTT]CRESC^TSqU-SHAP]ORNAM^TS+bP, CRESC^TS+gP&ATOR B&dDOTmIGN ;USV&AiC;DRAB(DUlN
UKTAfSIDDHAMhVIRAMAeS&GAmVOWEL? AAbIbLT*NATE UaUlUcEbIaIcObUaUcVOC)IC RaR+aEWAYS BLACK DOWN PO(T(G (DEXt,FT PO(T(G (DEXtR< PO(
T(G (DEXuUP PO(T(G (DEXxWHITE DOWN PO(T(G (DEXt,FT PO(T(G (DEXtR< PO(T(G (DEXuUP PO(T(G (DEX+eGN OF THE HORNSnWRIT(G AIR BLO
W SM)L ROTA_:Sq(G OUTlSUCK SM)L ROTA_:Sq(G (oBREATH EXH)Eg(H)ElUSH BETWE^hMUL_P,iS(G,mCHEEKS NEUTR)hPUFFEDgSUCKEDmOL:dMMAfDREA
MY EYEBROWS DOWN NEUTR)mNEUTR) DOWNeUPkUP NEUTR)zYNAMIC &ROWHEAD L&GEfSM)LpEV*Y OTH* _MEqFASTeGRADU)hRELAXEDhSIMULT;EOUS=)T*NA
T(GxLOWeT^SEnE&SdXCITEM^TjYE BL(K MUL_P,iS(G,mW(KfBROWS STRA< DOWNeNEUTR)hUPrGAZE-FLOORPL;E CURVEDgSTRA<=)T*NAT(GlDOUB,+aW)LP
L;E CIRCL(GhURVEDgSTRA<=)T*NAT(GlDOUB,+eLASHES DOWNeFLUTT*(GkUPjS CLOSEDgH)F CLOSEDgOP^jOP^eSQUEEZEDiWIDE OP^fN(G MOVEM^TwFAC
E DIREC_: POSI_: NOSE FORW&D _LT(GpUP OR DOWN=_LT(G+uILL MODIFI*-2b3b4b5b6nNG*fLICK L&GE MUL_P,iS(G,mSEQU^_)jM)L MUL_P,iS(G,qO
ORPL;E SHOULD* HIP MOVE+bOREHEAD C:TACThNEUTR)hWR(K,DqULL STOPjGRASP BETWE^hMUL_P,iS(G,mHAIRcND-;G,=(DEX=MIDD, LITT,gR(GlR(G L
ITT,=OUTpTHUMB=(cOUTpLITT, (DEX=THUMB (DEX THUMB=OUT+bUPjMIDD, R(G LITT,=(cOUTwR(G DOWN MIDD, THUMB (DEX CROSS+dLITT,rCIRC,=(D
EX=B^TeH(GEfMIDD,=CROSS LITT,hEDhLITT,gR(GeTHUMBmR(G LITT,rLITT, (DEXfUPjMIDD, R(G LITT,=B^TqUPjR(G LITT,rLAW=FOUR F(G*S C:JO(
EDw(DEX THUMB CURVE THUMB (SIDE+eMIDD, R(G LITT, C:JO(ED=SIDE+hNO THUMBiTHUMB FORW&DhSIDEoUP=FIVE F(G*S SPREAD=OP^y(DEX=R(G LI
TT,lTHUMB=OP^qMIDD, R(G LITT,sNO THUMBiOP^=NO THUMBiTHUMB FORW&DhSIDEpTHUMB FORW&DhSIDEmRLICUE=(DEX R(G LITT, :uMIDD, R(G LIT
T, :vOP^nFIST=FOUR F(G*S C:JO(]B^T+bHEELe(DEX=B^T=OV* MIDD,qCUPPEDgH(GED=LOWdMIDD, UP=THUMB SIDE+bMIDD,=B^T=THUMB STRA<tC:JO(E
D=CUPPED=THUMB FORW&DuH(GED=THUMB SIDEr(DEX B^TkMIDD, B^TlTHUMB FORW&DhSIDE=B^TeC:JO(ED+dROSS LITT,hED=THUMB SIDEsH(GED=SPREA
D THUMB SIDEyLITT,gRAIS]KNUCK,So(G=B^TeC:JO(EDoSTRA< THUMB B^TtTHUMB=;G,D=OUTkB^TeCIRC,Dg:JO(]H(GEDpUPPEDgH(GEDfOOKEDmUP SPREA
D THUMB FORW&D+eRAIS]KNUCK,n(G LITT,lTHUMB ;G,D ( MIDD, UPmOUT MIDD, UPuCIRC,aD MIDD, UPqUPP]MIDD, UPoRLICUEfVE THUMB (SIDEgUN
D*rFORW&D (DEX B^TeSTRA<wHOOKa]MIDD, H(GEDgUPqSIDE=BOTH B^Tj(DEX B^TeH(GElTHUMB B^TeC:JO(EDjDIAG:)zUP MIDD, H(GED=THUMB C:JO(E
DjSIDE+hLITT, B^TeDOWN=OTH*S CIRC,DoRIPP, CURVEDgSTRA<u(DEX=THUMBlRAIS]KNUCK,oTHUMBeOUCHES THUMBnUPjMIDD, B^T OV* (DEXpDOWNeLI
TT,gRAIS]KNUCK,n(G LITT,lTHUMB ;G,D (DEX UPiOUT (DEX CROSSEDhUPtCIRC,D (DEX H(GEDgUPpUPP](DEX UPpHOOK](DEX UPpLITT,mUP=THUMB S
IDEuR(G DOWNe(DEXfLITT,gMIDD,=C:JO(EDjRAIS]KNUCK,SwRAIS]KNUCK,oTHUMBfUPhTHUMB=BETWE^ (DEX MIDD,=STRA<vMIDD, R(GlR(G LITT,tFOR
W&DhHEELeOV* FOUR RAIS]KNUCK,SuTWO F(G*SqSIDE B^TeC:JO(EDjDIAG:)nUND* FOUR F(G*Sm(DEX B^TkLITT, UPjTHREE F(G*SmWO F(G*S+bLAT=B
ETWE^ P)M FAC(GSuFIVE F(G*S SPREAD=B^TeFOUR B^TjH(GED=NO THUMBiTHUMB SIDErTHUMB FORW&D+gOUR F(G*S=B^TeC:JO(ED=SPLITpH(GEDtHEE
L=FIVE F(G*S SPREAD=B^TeFOUR B^T+dTHUMB SIDEpSPLIT C^TRE=THUMB SIDE=B^Tw(DEX THUMB SIDEqLITT,mTHUMB B^TeFORW&DhSIDEpH(GE=FIV
E F(G*S SPREAD OP^xOUR F(G*S C:JO(EDw(DEX=H(GEDgMIDD, LITT,gR(G=C:JO(EDvR(G LITT,lTHUMB=L&GEfOP^eSIDEdM)LrLITT,=(DEX=THUMBlTHU
MBmMIDD,=R(G LITT,sNO THUMBiOP^=NO THUMBiTHUMB FORW&DhSIDEpR(G=DOWN (DEX THUMB HOOK MIDD,+hSM)LfTHUMB BETWE^ MIDD, R(GtSIDE=TO
UCH(G (DEX+eOOK=CURLICUEi(DEX R(G LITT, (cOUTdUND*xMIDD, R(G LITT, C:JO(ED=(cOUTzTHUMBmR(G THUMBpOV)=FIVE F(G*S SPREADt(DEXfLI
TT, UPjNO THUMBiR(G LITT,lTHUMB FORW&DhSIDEtEAD=MOVEM^T CIRC,h-FLOORPL;E CURVEfSTRA<tW)LPL;E CURVEfSTRA<i_LTxRIMiLIMB COMB(A_:
l,NGTH-1b2b3b4b5b6b7lP LOW* OV* UPP*qUPP* OV* LOW*rS PRESS]TOGETH*uOCA_: DEPTHfHEAD NECKh<gLIMBS DIGITSmTORSOfWIDTHg-FLOORPL;
E SPACEqW)LPL;E SPACEyMOUTH CLOS]C:TACThFORW&DhNEUTR)nORN*ShFROWN=OP^eWR(K,DoKISS=FORW&DhWR(K,DnOP^ CIRC,gFORW&DhOV)=WR(K,DiYA
WNjRECT;G,=WR(K,DiYAWNoWR(K,DnSMI,=OP^eWR(K,DoT^SE=FORW&DhSUCKEDmWR(K,S DOUB,gS(G,tVEM^T-DIAG:) AWAY L&GEaSThMEDIUMgSM)LkBETW
E^ AWAY L&GEaSThMEDIUMgSM)LkTOW&DS L&GEaSThMEDIUMgSM)LvTOW&DS L&GEaSThMEDIUMgSM)LwFLOORPL;E &M CIRC, HITT(G W)L L&GE DOUB,gS(
G,mMEDIUM DOUB,gS(G,nSM)L DOUB,gS(G,+kB^DdOX L&GEfMEDIUMgSM)LjCHECKeORN* L&GEfMEDIUMgSM)LlROSSeURVE COMB(EDiHITT(G CEIL(G L&GE
fSM)LnFLOOR L&GEfSM)LtL&GEaSThMEDIUMgSM)LlDOUB, )T*NAT(G=WRIST F,XwSTRA<iWRIST F,XrF(G* CIRC,S HITT(G W)L DOUB,gS(G,+a:TACToHU
MP HITT(G CEIL(G L&GE DOUB,gTRIP,mSM)L DOUB,gTRIP,uFLOOR L&GE DOUB,mSM)L DOUB,mTRIP, L&GE TRIP,mSM)L TRIP,+hSM)LkJAWdLOOP HIT
T(G CEIL(G L&GE DOUB,gS(G,mSM)L DOUB,gS(G,uFLOOR L&GE DOUB,gS(G,mSM)L DOUB,gS(G,+aSM)LkPEAKS L&GEfMEDIUMgSM)LlSHAK(G P&),Lp(
G, STRA< L&GEaSThMEDIUMgSM)LoWRIST F,XrTRIP, )T*NAT(G MOVEM^TiWRIST F,XwSTRA< MOVEM^TrWRIST F,XrWAVE HITT(G CEIL(G L&GEfSM)LnF
LOOR L&GEfSM)LtL&GEfSM)LeNAKEjRIST CIRC, HITT(G W)L DOUB,gS(G,+gZIGZAG L&GEfMEDIUMgSM)LxH(GE DOWN SEQU^_)pSIDE TO SIDE SCISSOR
SvUP DOWN )T*NAT(G L&GEfSM)LrL&GEfSM)LkSEQU^_)tW)LPL;E &M CIRC, MEDIUM DOUB,gS(G,nSM)L DOUB,gS(G,xB^D L&GEfMEDIUMgSM)LjOX L&GE
fMEDIUMgSM)LjCHECK L&GEfMEDIUMgSM)LkORN* L&GEfMEDIUMgROTA_:iSM)LlROSSeURVE H)F-CIRC, L&GEaSThMEDIUMgSM)LqITT(G CHESTfFR:T W)Ls
QU&T* L&GEaSThMEDIUMgSM)LnTH^ STRA<lREE-QU&T* CIRC, MEDIUMgSM)L+bD CROSS MEDIUMgSM)LsDOUB, )T*NAT(G=WRIST F,XwSTRA<iWRIST F,Xr
F(G* CIRC,S DOUB,gS(G,n:TACToHUMP HITT(G CHESTfFR:T W)LsL&GEfMEDIUMgSM)LkJAWdLOOP HITT(G CHESTfFR:T W)LsL&GEfMEDIUMgSM)L=DOUB,
rPEAKS L&GEfMEDIUMgSM)LlSHAK(Gg(G, STRA< L&GEaSThMEDIUMgSM)LoWRIST F,XrTRIP, )T*NAT(G=WRIST F,XwSTRA< MOVEM^TrWRIST F,XrWAVE C
URVE DOUB, L&GEfMEDIUMgSM)LmTRIP, L&GEfMEDIUMgSM)LsDIAG:) PATH L&GEfMEDIUMgSM)LtHITT(G CHESTfFR:T W)LwRIST CIRC, FR:T DOUB,gS(
G,zZIGZAG L&GEfMEDIUMgSM)L+fNECKdOSE C:TACThNEUTR)hWIGG,SgR(K,SnP&^THESISlROTA_: MODIFI*-10b1b2b3b4b5b6c2b3b4b5b6b7b8b9l-FLOOR
PL;E )T*NAT(G=HITT(G CEIL(GhFLOORzDOUB,=HITT(G CEIL(GhFLOORuS(G,=HITT(G CEIL(GhFLOOR+fW)LPL;E )T*NATEb(G HITT(G CHESTfFR:T W)
L+eDOUB,=HITT(G CHESTfFR:T W)LzS(G,=HITT(G CHESTfFR:T W)L+rUB BETWE^hMUL_P,iS(G,kSEMICOL:iHOULD* HIP POSI_:SjSP(Ej_LT(G FROM W
AIST+aQUEEZE FLICK )T*NAT(GrL&GE MUL_P,iS(G,mSEQU^_)jM)L MUL_P,iS(G,tTRIKE BETWE^hMUL_P,iS(G,mURFACE BETWE^hSYMBOLSpTEETH=BIT
E LIPSjMOVEM^Ti: LIPS=MOVEM^TnT:GUE=MOVEM^TwNSE CHEEKS HIGHeLOWdMIDD,s:GUE C^TRE (SIDE MOUTHmS_CK(G OUTt(SIDE MOUTH RELAXEDuLI
CK(G LIPSmMOVES AGA(ST CHEEKtS_CK(G OUT F&q_P BETWE^ LIPSmTOUCH(G (SIDE MOUTH+eRSO-FLOORPL;E TWIST(GtW)LPL;E CURV]B^DlSTRA< ST
RETCH+eUCH BETWE^hMUL_P,iS(G,lRAVEL-FLOORPL;E ROTA_:-FLOORPL;E )T*NAT(GlDOUB,gS(G,rW)LPL;E )T*NAT(GlDOUB,gS(G,zSHAK(GsW)LPL;
E &M SPIR) DOUB,gS(G,gTRIP,rROTA_:-FLOORPL;E )T*NAT(GlDOUB,gS(G,rW)LPL;E )T*NAT(GlDOUB,gS(G,zSHAK(GyUPP* BODY _LT(G FROM HIP J
O(TS+iW)LPL;E SHOULD* HIP MOVE+lLHOUETTE OF JAP;rMIL&. GREAT*-TH;. EQU)S?+e,SS-TH;. EQU)S?+hM(US SIMIL&nOR GREAT*-TH;m,SS-TH;s
NE WAVEgG, CH&ACT* (TRODUC*uGRAPHIC CH&ACT* (TRODUC*+cHIGH-REV*SED-9 QUOTA_: M&K+e,FT-PO(T(G ;G, QUOTA_: M&K+hOW-9 QUOTA_: M&K
uR<-PO(T(G ;G, QUOTA_: M&K+jSHIFT THREEeWOk-SHIFT-2b3lH)A &CHAIC D#jNUMB* E<YgFIFTYeORTYfN(ETYg:E HUNDREDhTHOUS;DmSEV^TYgIXTYf
T^cHIRTYfW^TYv,TT* AAY;NAgEEY;NAgY;NAgIY;NAgLPAPRA;A BAY;NAhCAY;NAhDAY;NAgDAY;NAiGAY;NAhJAY;NAhKAY;NAhPAY;NAhTAY;NAgTAY;NAsMB
A BAY;NAlUY;NAgY;NAgD;TAJA LAY;NAhNAY;NAhSAY;NApEEY;NAgY;NAgFAY;NAhHAY;NAhIIY;NAgLUUY;NAgY;NAhRUUY;NAgY;NAhY;NAgK;TAJA NAASIKY
AYAsMAHAAPRA;A BAY;NAhCAY;NAhDAY;NAgDAY;NAiGAY;NAhJAY;NAhKAY;NAhPAY;NAhTAY;NAgTAY;NAsY;NAgUURDHAJA LAY;NAhNAY;NAhSAY;NArOOY;NA
gY;NAgRAY;NAhS;YAKA DAY;NAgDAY;NAiGAY;NAhJAY;NApTA)UJA NAASIKYAYAkS;YOOGA NAAKSIKYAYAsY;NApUUY;NAgY;NAgVAY;NAhYAY;NAnITH D#dZ*
OpPUNCTUA_: KUNDD)IYAwSIGN )-LAKUNAiNUSV&AYAkC;DRAB(DUlVIS&GAYAoVOWEL? AELA-PILLAkDIGA AEDA-PILLAkGAETTA-PILLAkY;UKITTAlIS-PIL
LAiKOMBUVAhPAA-PILLAoGAETTA-PILLAkY;UKITTAlKET_ AEDA-PILLAkIS-PILLAiPAA-PILLAoOMBU DEKAfVA=HAA AELA-PILLAkDIGA AELA-PILLApGAY;
UKITTA+oX PET),D BLACK ;D WHITE FLORETTE+gO(T]BLACK ST&kP(WHEEL ST&nST& %MIDD, DOT+d-P*-EM SPACEnTE^ PO(T]AST*ISKxKATEBO&DiI ;
D SKI BOOTn*dULL=;D CROSSB:ESrNKeL;T]EQU) TO OR GREAT*-TH;=%DOT (SIDE+c,SS-TH;=%DOT (SIDE+lNORTH &ROW %HOOK]HEADjRIZ:T) TAIL+l
V:IC AST*ISKpEDbEP(G ACCOMMODA_:nFACEeSYMBOLkY FACEiUTH OR SPYlICE OF PIZZAlGHTLY FROWN(G FACEnSMIL(G FACEtOPEb(G L&GE ;DdORn
T MACH(EiHeM)L AIRPL;EhMP*S;DiST*ISKiBLUE DIAM:DmCOL:dMMAb*CI) ATlNTA(S AS MEMB*j%OV*B&hV*_C) B& AT ^D OF HORIZ:T) STROKE++cDO
LL&?lE,M^T OF=%OV*B&hV*_C) B& AT ^D OF HORIZ:T) STROKE++dM DASHgQU)S?kXCLAMA_: M&KqFULL STOPjGREAT*-TH;?rHYPH^-M(USmIDEOGRAPHI
C COMMAr,FT CURLY BRACKETnP&^THESISlTORTOISE SHELL BRACKETzSS-TH;?oNUMB*?lOR;GE DIAM:DoP*C^T?lLUS?jQUES_: M&KnREV*SE SOLIDUS
o< CURLY BRACKETnP&^THESISlTORTOISE SHELL BRACKET+bOM; NUM*) E<e,V^gFIFTYdVE=HUNDREDlOUReN(Ee:E=HUNDREDhTHOUS;DmSEV^eIXdT^cHRE
EeWELVEeOrSEMICOL:j_LDEeWO DOTS OV* :E DOT PUNCTUA_:+hVEE %UND*B&s* TH;=OR EQU) TOvSH PRODUCTlI,b(G CAT FACE %HE&T-SHAP]EYESrO
P^ MOUTHyFACE %H)OdE&T-SHAP]EYESqORNSfOP^ MOUTH=;D COLD SWEATkSMIL(G EYESmT<LY-CLOS]EYES+iSMIL(G EYES=;D H;D COV*(G MOUTHtTHRE
E HE&TS+cUNGLASSESkTE&tRK(G FACElOK(G SYMBOLnNAILcKEdEEZ(G FACElOW CAPP]MOUNTA(qBO&D*hFLAKEfM;=WITHOUT SNOWtOaCC* B)LiKSdFT HY
PH^gICE CREAMjSHELL FLOPPY DISKsB)LeW&E-FUNC_: SYMBOLwGDI; COMB((G CURVE.f|lDOT.f|jHOOK.f|kL:G HOOK |pRESH |kSTROKE |mTWO DOT
S.f|y(DEP^D^T SH(q,TT* )EPHeY(eBETHeFETHeGIMELfHEaTHeKAPHeLAMEDHfESHeMEMdNUNdPEcRESH-AY(jSADHEdMEKHfH(eTAWdWAWdYODHeZAY(mNUM
B* :E=HUNDREDlT^cW^TYnPUNCTUA_: CIRC, %DOTpH)F CIRC, %DOTuTWO CIRC,S %DOTSrV*_C) B&S=%DOTS+tHbLID QUILT SQU&E ORNAM^T=( BLAC
K SQU&E+mUS=%OV*B&sM?g: %R<W&DS &ROW.+eRA SOMP^G D#dZ*Ok,TT* AHcBAHdCAHdDAHdEEHcHcGAHdHAHdIHcJAHdKAHdLAHdMAEbHdNAHcGAHdYAHeOHc
PAHdRAHdSAHdTAHdUHcVAHdYAHvSbUND RECORD(G COPYR<wTH EAST &ROW=;D SOUTH WEST &ROWuCROSS(G NORTH EAST &ROWzTO CORN*j%HOOKpBLAC
K &ROWlDOUB, &ROWmPO(T(G BUDd,AFeV(E ,AFsS;S-S*IF &ROWqTRI;G,-HEAD]&ROW=TO B&+cWHITE &ROWqWEST &ROW=;D NORTH WEST &ROWu%HOOKpB
LACK &ROWlDOUB, &ROWmPO(T(G BUDd,AFeV(E ,AFsS;S-S*IF &ROWqTRI;G,-HEAD]&ROW=TO B&+cWHITE &ROWuYOMBO CLUST*-(I_) ,TT* L~R~S>+a
F() C:S:;T? -~BbDbGbKbLbMbNaGcRbSaHxGEM(A_: M&KpHEAD M&K %MO: ;D SUN=;D FLAMEfTRIP, FLAME+s,TT* -~AbB>dC>dDAbD>dH~ZAdG>dH~J>d
K>cSSAeL~M~NAbG~N~YAdP>dR~S>cSAdT>cS>dT>eV~Y~Z>kM&K DOUB, SHADlPLUTAfSHADeTSHEGkSIGN ;USV&AiJIHVAMULIYAlUPADHM;IYAlVIS&GAlUBJ
O(*jT*M() M&K-1b2pVOWEL ,NGTH M&KlSIGN AIbUcEbIbOaEcUaEcVOC)IC LbR+bPaAaCEcGHET_gRK,aSc(G HE&TnEAK-NO-EVIL M:KEYp*=%C;CELL
A_: STROKEt:E SOUND WAVEoTHREE SOUND WAVESz(G HEAD ( SILHOUETTEyECH B)LO:kDBOATgSMILO?lH*IC) ;G,=OP^(G ,FTeUPyID*=WEBhR) C)^
D& PADmNOTE PADiSHELLkLASH(G SWEAT SYMBOLu:GEdOL OF THREADlNcRTS MED)jUT(G WH)EnQU&E A OV* Mh&UdMbNPEAePAATOfRUHUAfUcBA&*UfRcE
ETAeIRUdORUTOfQbUSSY*UiC OV* KGi)bPcCbDbM=CUBEDfSQU&EDjOaRPORA_:kUPdDAaASUeBbESIdJbLbM=CUBEDfSQU&EDjORUeEEKAAeRA NAME HEISEIgM
EIZIfREIWAfSYOUWAgTAISYOUoGcSUKUUDOhVcFMbOOTcUR CORN*SmG)bNMAdR:eBbHZcIG~NIIdRUDAAgP~URAMUaT:iYcHAaITUeEKUTA&UhRUTUfGbIRAG;A H
OKAm:b:bRUePa~U&ADDOgIITOeR;eZcIMAGE OF=OR EQU) TOiNOT EQU) TOxNa(GUe_dUcK OHMeAaIRIdRATTOeORIIgBbC)dEESUeGbHZcIROaGURAMUgMEET
ORUhWATTOiKbLbM=CAPIT)gUBEDfSQU&EDjOOPOdRUNAfP~TbURO:EeUZEIROiVbWbYURIIg,FT OP^ BOX OP*ATORvMbNbOGbZ^GEgXcM CUBEDfOHMcV* S=SQ
U&EDoSQU&EDiAaHHAdIKUROeRUdNSY:fRUKUfB=SM)LhEETORUfGAaT:gGbHZcIKUR:fLbRIaBA&UiLbM=CUBEDfSQU&EDjOLcP~SbU AbFbGbLbMbSbVbWdV=MEGA
gW=MEGAhNAaNOdFbMbOTTOeSbVbWc:SUdOMUdRIG() OF=OR EQU) TOiNOT EQU) TO+aVcPA=AMPSfAS^TOfTUeCbEEZIdNIHIdSUdSOdFbHbIASUTORUhKObURU
fMbO(TOeNDOdSI_: (DICATORrPMcRbSbVbWcRAD=OV* S=SQU&EDrEMUcNTOG^h< OP^ BOX OP*ATORvR~TTORUgOOTdUPIIdUBURUhSAIKURUfN_IMUh^_bOeI
R(GUgRbVcT&GETfHZc:dU:dV OV* MiWATTOeBbITH BOTTOM H)F BLACKrC:TOUR]OUTL(ErDIAG:) CROSSHATCH FILLyHORIZ:T) FILLp,FT H)F BLACKoO
W* ,FT DIAG:) H)F BLACKyR< DIAG:) H)F BLACK+fORTHOG:) CROSSHATCH FILL+aR< H)F BLACKqTOP H)F BLACKoUPP* ,FT DIAG:) H)F BLACKtT
O LOW* R< FILLyR< DIAG:) H)F BLACKtTO LOW* ,FT FILL+eV*_C) FILLsYAADOcRUeU;fD AST*ISKiCJK UNIFI]IDEOGRAPH-4E00b9c2Dc8CcA4e518D
d21Dc4Dc72d3CCcF3d408c39d5B6d8F0d91~29dB57dDE6dF8Ce624Bc53c95d307c55d599cB0d620d708b9dE80dF14e7121d51Fc33d981dA7AdD42e89E3dCA9
dD70e904Ad14DzLbOOLeDOT OP*ATORmE< KhF)L(G DIAG:) SLASHvIVE PO(T :EnOUR DOT PUNCTUA_:pKfREEeHCbDRcI-RESfVcIDcKATAK;A DEcKOKOeS
AkEYdLAT( CAPIT) ,TT* @bGbHbIbJbKbLbMbNbObPbQbRbSbTbUbVbWbXbYbZqSM)L ,TT* DtOGIC) ;DdORiSS,SSiM(USeVcNEWcGcOKbNE HUNDR]TW^TY P
uPLUSdPVdRIS(G DIAG:) SLASHvS)_REgDbEC:D SCRE^lV^ PO(T :EoHVcIXTY PgM)L CIRC,lOScQU&EfScTHREE DgIMESeW^TY-TWO PO(T TWOsO KfUHD
cP %EXCLAMA_: M&KyVODcScWCgT BLACK R<W&DS &ROWzIDeS2b3b~TaADIUMeFF OF AESCULAPIUSlH*MESmMP]^VELOPEnND(G P*S:mR ;D CRESC^TmEQU)
SgOF DAVIDhP*ATORi%,FT H)F BLACKpR< H)F BLACKwT OF GU&D]&EAmHEAD(GhPROTECT]&EAoSE,CT]&EAmTR(GgTEXTk_:dUE OF LIB*TYpEAM LOCOMO_
VEl(G BOWLkNOGRAPHIC FULL STOPtTHOSCOPEjICK FIGURE=,;(G ,FTeR<n%&MS RAISEDlDRESSvOCK CH&TiPWATCHhRA< RUL*gNESSiWB*RYhESS OUT
L(]WHITE ST&xICTLY EQUIV)^T TOsNG T*M(ATORpSbUDIO MICROPH:EoFF]FLATBREADoPAdXcUBaSCRIPT E<eQU)S?lFIVEdOURe,FT P&^THESISqM(USf
N(Ee:EdPLUS?jR< P&^THESISrSEV^eIXdTHREEeWOdZ*OkET. R<W&DS &ROWqSUBSETeP*SEToOFa. )MOST EQU) TOpEQU)S?lNOT EQU) TOm_LDE OP*ATOR
uOR EQU) TO=%DOT.+a%NOT EQU) TOu%DOTdMUL_PLICA_:? |zPLUS? |x_TUTEiCCEEDSa. )MOST EQU) TOpEQU)S?lNOT )MOST EQU) TOpEQU) TOmS(
G,-L(E EQU)S?lNOT EQU) TO+eBUT NOT EQUIV)^T TOvOR EQU) TOfIV)^T TOqUND* RELA_:vMMA_: BOTTOMgTOPd%(TEGR)vN=BEH(D CLOUDm%FACEkD;
ESE AVAGRAHAiC:S:;T? PAM(GK)hNYAKRAeIKUfS;G; M~WA+aD#dZ*Ok,TT* AaEcB>dC~D~EaUcFAb() KbMhG~H~IbJ~K>dLAbEUdM~NAbG~YAdObP~Q~RAbEU
dSAbYAdT~UbV~W~X~Y~ZAjPUNCTUA_: B(DU BA SAT;GAkCAKRAfDA SAT;GAkKA SAT;GAk,U SAT;GAlP;GL:GhURNAMAhSURYAxSIGN PAMAAEHfNGLAY&fWIS
ADgYECEKiVIRAMAlVOWEL? PAMEPETfNAELA^GhEU,UNGhGHULUfOL:GfYUKUzFLOW*gRISE=OV* MOUNTA(StSET OV* BUILD(GStP*H*OeSCRIPT E<eQU)S?lF
IVEdOUReLAT( SM)L ,TT* IbNtEFT P&^THESISqM(USfN(Ee:EdPLUS?jR< P&^THESISrSEV^eIXdTHREEeWOdZ*OkET. ,FTW&DS &ROWpSUBSETeP*SEToBES
IDE ;D JO(]BY DASH %SUBSET+eSUBSETnOFa. )MOST EQU) TOpEQU)S?lNOT EQU) TOm_LDE OP*ATORuOR EQU) TO=%DOT.+a%NOT EQU) TOuPRECED(
G SOLIDUSr%DOTdMUL_PLICA_:? |zPLUS? |yVILLA(kRFACE (TEGR)m*eSHIcP^SI: RAILWAYrW;bSH AMP*S;D ORNAM^TwIMM*fUNG DASHjYLO_ NAGRI ,
TT* AbBHOcOcCHOcOcDDHOcOcHOcOcEbGHOcOcHOcIbJHOcOcKHOcOcLOcMOcNOcObPHOcOcRObROdSOcTHOcObTHOcOdUiPOETRY M&K-1b2b3b4nSIGN )T*NAT
E HAS;TAqNUSV&AiDVISV&AiHAS;TAmVOWEL? AbEbIbOOcUxMBOL FOR ACKNOW,DGElBACKSPACEiELLeC;CELeRRIAGE RETURNpDATA L(K ESCAPEpE,TE
a$ TWOnVICE C:TROL FOURe:EdTHREEeWOs^D OF MEDIUMgTEXTdR;SMISSI:=BLOCKxQUIRYgSCAPEgFI, SEP&ATORnORM FEEDjGROUP SEP&ATORpHORIZ:
T) TABULA_:vL(E FEEDjM&KS CHAPT*nNEGA_VE ACKNOW,DGEsWL(EgULLeRECORD SEP&ATORqSAM&IT; SOURCEpHIFT (cOUTiPACEeT&T OF HEAD(GhTEXT
mUBS_TUTEa$ TWOsYNCHR:OUS ID,qTYPE A E,CTR:ICSsUNIT SEP&ATORoV*_C) TABULA_:+bMETRYgNaAGOGUEgCHR:OUS ID,oRIAC ABBREVIA_: M&KrB&
REKHhCOL: SKEW],FTeR<qNTRAC_:lDOTT]ZLAMA ;GUL&hHORIZ:T)x^D OF P&AGRAPHpSASA.f|lFEM((E DOTmH&K,; AST*ISCUSkMETOBELUSjOBELUSoBAS
A.f|g-ESASA DOTTEDrORIZ:T) COL:q,TT* )APHfBETHeD)ATHfOT,SS D)ATH RISHtEbF() SEMKATHnGAM)=G&SHUNIoHEaTHeKAPHeLAMADHgM)AY)AM BHA
dJ~LLAbLAeNG~NAbNAdYAdR~SSAdTTAmIMdNUNdPEaRSI; BHETHfDH)ATHhGHAM)oQAPHeREV*S]PEkISHeSADHEeEMKATHgH(dOGDI; FEcKHAPHfZHA(mUP*SCR
IPT )APHrTAWcETH=G&SHUNInWAWdYUDH=HEhZA(lMUSICfOBLIQUE L(E.f|sPTHAHA.f|fDOTTEDnQUSHSHAYAjRBASA.f|kUKKAKHAhWAHAfSUBL(E& COL:=SK
EW],FTeR<sFULL STOPrPR)(E& COL:=SKEW],FTrFULL STOPvTHREE DOTS.f|pWO V*_C) DOTS.f|xZQAPHA.f|fDOTTEDqNGEhT-REXdSHIRTgABa, T^NI
S PADD, ;D B)L+aCOcG AMP*S;DiPOSTROPHEjST*ISKiCIRCUMF,X ACC^TqOL:dMMAb*CI) ATnD#dZ*OjOLL&?lEQU)S?kXCLAMA_: M&KqFULL STOPjGRAV
E ACC^TkEAT*-TH;?rHYPH^-M(USmLAT( CAPIT) ,TT* @bGbHbIbJbKbLbMbNbObPbQbRbSbTbUbVbWbXbYbZqSM)L ,TT* @bGbHbIbJbKbLbMbNbObPbQbRbSb
TbUbVbWbXbYbZtEFT CURLY BRACKETnP&^THESISlSQU&E BRACKETrSS-TH;?nOW L(EiNUMB*?lP*C^T?lLUS?jQUES_: M&KlOTA_: M&KoREV*SE SOLIDUS
o< CURLY BRACKETnP&^THESISlSQU&E BRACKETuSEMICOL:iOLIDUSgPACEf_LDEfV*_C) L(Eo)OG ,TT* AaRCHAIC RAkB~D~G~H~IbK~L~M~NAbGAdP~R~S~
T~UbW~YAjSIGN PAMUDPODiVIRAMAlVOWEL? IbUrB;WA ,TT* AbB~D~G~IbK~L~M~NAbGAdP~S~T~UbW~YAjVOWEL? IbUtI , ,TT* AaIbUEdEaEbHcF~H~Ib
K>dL~M~NAbGAdOaOcP>dQ~S~T>c:E-2b3b4b5b6fS>eUaEcV~X~YAmTHAM COMB((G CRYPTOGRAMMIC DOTzNS:;T? B~F() NGAjHIGH RATHA OR LOW PAuL
A T;G LAIkOW PAgMAbEDI) L~RAjSArHORA D#dZ*Op,TT* AbB~D~EEcGREAT SAiHIGH C>dF~H~K>cXAdP>dRATHAfS>cSAdT>dYAhIaIcLAaEcL~OW C>dF~
H~K>cXAdP>dRATHAfS~T>dYAfUEdM~NAbG~YAdOOcRAaN~TAdUEdUaUcWAjSIGN CA;GfDOKMAIgH;GdOYdKA;aKUUgEOWdHU^ T:E-3b4b5h-LUE K&;pMAI K;G=
LAIiSAMdYAMOKjRA HAAMgEV*S]ROTAT]R;AvSAKOTdTKA;aKUUiW;fT:E-1b2gWI;GaWAAKoTHAM D#dZ*OpVOWEL? AaAbEbIcEbIaIcMAI SAThOaA.f|hObYc
T)L AAgHAM AIhUaEbUaEtVIET ,TT* HIGH BOcCHOcOcDOcFOcGOcHOcKHHOcOcOcLOcMOcNGOcObYOdObPHOcOcROcSOcTHOcOcVOcYOhLOW BOcCHOcOcDOcFO
cGOcHOcKHHOcOcOcLOcMOcNGOcObYOdObPHOcOcROcSOcTHOcOcVOcYOnMAI K;GdHITiSYMBOL HO HOIgKOI KOIfNdNU^GfSAMkT:E MAI EKcNU^GfS:GeTHOm
VOWEL AAbMbNbUEcYcEbIa~ObUaAbEaAqKEOUT BOXiRI ABBREVIA_:?rD#dZ*Ok,TT* AaAbIbRCHAIC KHAkUcB>dC>dDAbD>dHAdEbG>dH~IaIcJ>dK>dL~M~N
AbG~N~YAdObP>dRAbRAdS>dT>cT>eUaUcV~YAjSIGN ;USV&AiNUKTAfVIRAMAeS&GAmVOWEL? AAbIbUcEbIaIcObUaUrLLY M&K FIVEe:EmM)EdIL ;D ODD?l
S.?mU ,NGTH M&KoCREDIT?kURR^T?mDAY?hEBIT?j#dZ*OjRY CUL_VA_:?uFRAC_: DOWNSC)(G FACTOR KIIZHy:E E<HbIETHjFIFTHeOR_ETHiH)F-1b2g:
E-HUNDRED-;D-SIX_ETHyQU&T*hSIXTE^TH-1b2hY-FOURTHmT^THeHIRTY-SEC:DlREE-HUNDRED-;D-TW^_ETH+aW^_ETHnTHREE E<IETHSkQU&T*SiSIXTE^TH
SgY-FOURTHSnTW^_ETHSz( POSSESSI:?sL;D?iETT* AaAbIbUcC~EaEcH~IaIcJ~K~LAbLAbLAeM~NAbG~NAbNAdYAdOaOcP~RAbRAdS>cSAdTAbTAdUaUcV~YAj
M:TH?kNUMB* :E HUNDREDhTHOUS;DmSIGNeT^kOMcPUNCTUA_: ^D OF TEXTxRUPEE?kS)T P;?mIGN AAZHAAKKUiNUSV&AiCEVITUgKAACUeURUNIeZHIfMUKK
URUNIhTH)IYAhUVUZHAKKUlNELdPA&AMeNAMdTHAKKUh:dUZHAKKUhVAKAIY&AAiRAAK;hELIdIRAMAeS&GAlP^T?jT&T(G FROM?sTOT)?jRADI_:) CREDIT?lNU
MB*?xVOWEL? AAbIbUcEaEcIaIcOaOcUaUnWET CUL_VA_:?uYE&?nNABATA TREEkG*(EfSA D#dZ*Ok,TT* ACbQbWCbQbXbZcXbZcB~C>dD>dECbQbXbZcFA
b() NGiG>dHAbTAbTAeICbQbXbZcK>dLAb:G UEXiMAbCbQbXbZcNAbG~H~YAdOCbQbXbZcP>dR~S>bORT AWXdUEZjT>cSAdUCbECbQbXbZcICbQbUCbQbXbZcXbZ
cQbXbZcVCbQbXbZcW~X~Y~ZAmUT COMP:^T-001b2b3b4b5b6b7b8b9c1!c2!c3!c4!c5!c6!c7!c8!c9!d10!c1!c2!c3!c4!c5!c6!c7!c8!c9!d20!c1!c2!c3!
c4!c5!c6!c7!c8!c9!d30!c1!c2!c3!c4!c5!c6!c7!c8!c9!d40!c1!c2!c3!c4!c5!c6!c7!c8!c9!d50!c1!c2!c3!c4!c5!c6!c7!c8!c9!d60!c1!c2!c3!c
4!c5!c6!c7!c8!c9!d70!c1!c2!c3!c4!c5!c60b1b2b3b4b5b6b7b8nIT*A_: M&KtPE C&TRIDGEjDRIVEiURUSeXIdEACUP WITHOUT H;D,sPOTdR-OFF C)^
D&nDROP-B&B]R<W&DS &ROWxSPOK]AST*ISKwDDY BE&i,PH:E LOCA_:?n: TOP OF MODEMpRECEIV*=%PAGEpORD*iSIGNkSCOPEfVISI:hUGU AI ,NGTH M&K
oD#dZ*OkFRAC_: DIGIT :E FOR EV^ POW*S OF FOURtODD POW*S OF FOUR+aTHREE FOR EV^ POW*S OF FOURtODD POW*S OF FOUR+bWO FOR EV^ PO
W*S OF FOURtODD POW*S OF FOUR+aZ*O FOR ODD POW*S OF FOUR+q,NGTH M&KjTT* AaAbIbUcB>dC>dDAbD>dH~ZAdEaEcG>dH~IaIcJ>dK>dLAbLAbLAe
M~NAaKA&A POLLUmG~N~YAdOaOcP>dRAbRAbRAeS>cSAdT>cS~T>eUaUcVAbOC)IC LaLcRaRkYAjSIGN ;USV&AhVAGRAHAiC;DRAB(DUkOMB((G ;USV&A.oC;DR
AB(DU.+bNUKTAfSIDDHAMhTUUMUfVIRAMAeS&GAmVOWEL? AAbIbUcEaEcIaIcOaOcUaUcVOC)IC LaLcRaR+aNGE?hNIS RACQUET ;D B)LuTcST TUBEhTRAGRA
M FOR ACCUMULA_:lDV;CEgGGRAVA_:kSC^TgB&RI*gOLD RESOLU_:oR;CH(G OUTnC^TREfH;GEfLOS]MOUTHhNESSfUREgOMP,_:fI;CEiNST;CYgTACTd^_:g
R&IETYlD&K^(GiECISIV^ESSkFEC_V^ESS OR DISTOR_:zP&TUREiIFFICUL_ESkM(ISHM^TjM(GfV*G^CEjOUBTeU_ESgEASEdMBELLISHM^TmNCOUNT*SiDEAVO
URhL&GEM^TkT*NITYhXHAUS_:kFAILUREgL<fOLLOW(GhST*(GiULL CIRC,hNESSiGATH*(G=(lO(G TO MEETmREATNESSiU&DEDNESSlH&DNESShOLD(G BACK
m(CREASEgN*fJOYdKEEP(G SM)Lm(SHIPhLABOUR(GhW OR MODELlEGI:gMASS(GgEASUREgIREDf: THE V*GElPPOSI_:kPACK(GfTT*Ng^ETRA_:kURITYgREA
CHd,ASEfSID^CEfST;CEhP:SEhITU)gSEV*;CEi(K(GgTOPPAGEfVEdR^GTHiUNITYfVASTNESS OR WAST(GtWAIT(GfTCHfYOUTHFULNESSzHA;A AABAAFILIiB
AFILIhEBEFILIgEBEEFILIiYBEYFILIjIBIFILIh,TT* A(UdLIFUfBAAdCHAVIY;IjDAADHUeVIY;IhHA)UgFAAFUfGAAFUeHA(UfNAVIY;IjHA~HAAeJAVIY;IiK
AAFUeHAAeLAAMUeHAVIY;IjMEEMUfNA~O:UfPAVIY;IiQAAFUfRAAdSAADHUfE^UeHAVIY;IhE^UgTAVIY;IhHAAaLUfObTAAeVAAVUfWAAVUfYAAdZAAbVIY;IhOj
OABOAFILIiBOFILIgOBOOFILIjSUKUNfUBUFILIlI CH&ACT* ;GKH;KHUkBO BAIMAIjCHO CH;aGd(GdOEiDO CHADAfDEKgFO FAaNeNGM;hHO HIPdNOKHUKjK
HO KHAIc:cUATdWAIfRAKH;GiMUTfO KAIgLAKKH;GYAOkO CHULAfL(GgUcMAI CHATTAWAiEKcH;-AKATiTHOcRIeTAIKHUgYAMOKhO MAfNGO NGUgIKHAHITh
O N^cUfO ;GfPAIY;NOIiH(THUfO PH;cUNGfSAMPHAOkO PLAgRO RUAfUcS&A AaAbEbI MAIM)AIeU;jMcEbIaIcObUaEaEcUgO RUSIeS)AdObUAgTH;THAKHA
TjO N;GM:THOkPHUTHAOhTHAH;dNc:GdUNGiO PATAKfTAOgWO WA^hYAMAKK;hO YAKc(GqURR^CY SYMBOL BAHTuD#dZ*On*E DOES NOT EXISToEXISTShFOR
EfMODYNAMIChMET*j( GREEK CROSSlS)_REgPACEgK(G FACEkRD PLACE MED)p:G S;D)jUGHT B)LO:nREE BUTT: MOUSEmC:SECU_VE EQU)S?SyDIM^S
I:) ;G,qOT PUNCTUA_:p,FTW&DS &ROWSp(ES C:V*G(G ,FTeR<wNETWORK]COMPUT*StPO(T]BLACK ST&sRAYS.f|f,FTeR<j<W&DS &ROWSrSPEECH BUBB,S
p-D BOTTOM-L<]R<W&DS &ROWHEAD+j,FT-L<]DOWNW&DS EQUILAT*) &ROWHEAD+sR<-L<]UPW&DS EQUILAT*) &ROWHEAD+rTOP-L<],FTW&DS EQUILAT*) &
ROWHEAD+fR<W&DS &ROWHEADjEQUILAT*) &ROWHEAD+uEM DASHhP*-EM SPACEqUMBS DOWN?jUP?lND* CLOUD ;D RA(pSTORMlIBET; ASTROLOGIC)? -KHY
UD PAjSD:G TSHUGSlGRA GC; -CH& RTAGS+nC;_LLA_:? C;G TE-UjHEAVY BEATkL< BEATkSBUB -CH)+cDIGIT E<fFIVEdOUReH)F E<fFIVEdOUReN(Ee:
EdSEV^eIXdTHREEeWOdZ*OjN(Ee:EdSEV^eIXdTHREEeWOdZ*OkKU RU KHA=BZHI MIG C;w,TT* -~AbB>dC>dDAbD>dH~Z>eFIXED-FORM RAnG>dH~J~K>cK~S
SAeL~M~NAbG~N~YAdP>dRAbRAdS>cSAdT>cS>dT>eW~Y~Z>jOGOTYPE? CHAD RTAGSkLHAG RTAGSyM&K ;G KH;G GYASc:oBKA- SHOG GI MGO RGY;mYIG MG
OqSDUS RTAGSjKA- SHOG GI MGO RGY;uUR YIG MGOnC&ET -DZUD RTAGS BZHI MIG C;mME L:G C;xYIG MGO PHUR SHAD MAzHE MGOgLOS(G BRDA RN
Y(G YIG MGO SGAB MA+bYIG MGO SGAB MAxDELIMIT* TSHEG BST&vGT* TSHEGfYIG MGO -UM GT* TSHEG MAnRNAM BCAD MAqTRUNCAT]AxUG RTAGS GY
ASc:oH);TAh(I_) BRDA RNY(G YIG MGO MDUN MA+bYIG MGO MDUN MAvT*SYLLABIC TSHEGt,AD(G MCH; RTAGStMNYAM YIG GI MGO RGY;wNGAS BZUN
G NYI ZLAhSGOR RTAGSuYIS SHADeTSHEG=SHADpP)UTAgRGYA GRAM SHADn( CH^ SPUNGS SHADuSBRUL SHADjHADeTRAIL(G MCH; RTAGStSA -PHRUhHE
G SHADkYIG MGO TSHEG SHAD MA+aSIGN GRU C; RGY(GSlM]RGY(GSp(V*T]MCHU C;rLCE TSA C;jI RTAGSjM& TSHESiCHU C;iNYI ZLA NAA DAoRDE
L DK& GCIGdNYISeSUMeRDEL NAGnNAG GCIGdNYISeSUMeRDEL DK&rJES SU NGA ROnNAM BCADjSNA LD;iY;G RTAGSiR TSHESnUBJO(],TT* -~AbB>dC>d
DAbD>dH~Z>eFIXED-FORM R~W~YAnG>dH~J~K>cSSAeL~M~NAbG~N~YAdP>dR~S>cSAdT>cS>dT>eW~Y~Z>kSIGN (V*T]MCHU C;rLCE TSA C;lMCHU C;wYLLA
B, OMjMBOL DRIL BUhNOR BU=BZHI -KHYILlGSUM -KHYILlNYIS -KHYILsPADMA GD;jHUR PAhRDO RJE=RGYA GRAMyVOWEL? A~EaEcIaIcOaOcREV*S]Ia
IlUaUcVOC)IC LaLcRaR+bCKETeE OV* (F(ITYpF(AGH C:S:;T JO(*q,TT* AHAGG& YAZHlY* YAGHjB*B* ACADEMY YAHbJsTAWEL,MET YAZnU&EG YAGHb
NcHbKaHcNGcQbZHlYAaAbBaHcCHcDaDaHcHcFbGaHaHdHaHcJbKaHaHdLbMbNbPbQbRaRcSaHbScTaHbTcVbWbYbZaHbZdEaYcIbObUjMODIFI* ,TT* LABI)IZ
A_: M&K+iSEP&ATOR M&KvG*=FACEhHT TRIFOLIATE SNOWFLAKEyLDE=OP*ATORa. ,FTW&DS &ROWpR<W&DS &ROWw%DOT.jRIS(G DOTSz%DOT.f|jR(G.t
M* CLOCKhS %,FT H)F BLACKpR< H)F BLACKzNY=TWO DOTS OV* :E DOT PUNCTUA_:+kR]FACEhHUTA ABBREVIA_:?qNJIeD#dZ*OkGV;Gf,TT* AaAbIbUc
B>dC>dDAbD>dHAdEbG>dH~IaIcJ>dK>dL~M~NAbG~N~YAdObP>dR~S>cSAdT>cT>eUaUcVAbOC)IC LaLcRaRkYAjOMcSIGN ;USV&AhVAGRAHAiC;DRAB(DUlNUKT
AfVIRAMAeS&GAmVOWEL? AAbIbUcEbIaIcObSHORT EbOhUaUcVOC)IC LaLcRaR+a:I;? CAPIT) ETkETpOI,TeKYO TOW*jMATOeNGUEeOLBOXeTHaBRUSHiP &
C ;_CLOCKWISE &ROW=%PLUS+dCLOCKWISE &ROW %M(US+eCURLY BRACKETnH)F BLACK CIRC,m(TEGR)i,FT P&^THESISqR< P&^THESISrSEC_:?pTd,FT C
ORN*fROPeH)F BRACKETrP&^THESISlR< CORN*fROPeH)F BRACKETsSQU&E BRACKEToTORTOISE SHELL BRACKETw%UPW&DS &ROW.+aRTOISE SHELL BRACK
ET]CJK UNIFI]IDEOGRAPH-4E09c8Ce52DDdB89e6253d557d72Ce70B9d6D7+aLAT( CAPIT) ,TT* S+tT) RUNOUTjO ,TT* AaEcBAbREATHY AEcEaOcIaUkC
HAdD~EaOcG~H~IaUcJ~K~L~M~NAbGAdObP~R~S~T~UbW~YAjSIGN RIS(G T:EuRACKB)LfTOReDE M&K?m(cM=C&fNSPLUTOfV*S) (T*SEC_:wI;G, %DOT.jROU
ND]CORN*SpS*IFS AT BOTTOMqUND*B&o-HEAD]R<W&DS &ROW+aUL& BUL,TgFLAG : POSTmRUL*nCOL:fD^T EMB,MlGRAM FOR E&THfFIREeHEAV^gLAKEeMO
UNTA(iTHUND*hWAT*e(DnP, COL: OP*ATORoDAGG*gHORIZ:T) B& %DOUB, V*_C) STROKEwTRIP, V*_C) STROKE+q(TEGR)iNEST]GREAT*-TH;m,SS-TH;q
PLUSdRIMEfSOLIDUS B(&Y RELA_:x_LDEfV*_C) B& B(&Y RELA_:pDELIMIT*jR< TURNS_,p%HORIZ:T) STROKE+oOLLaEYBUShPHYcIC) DR(KfFISHlUE=
L< MO: &TArMPETgUGRIK?jLIPdMBL* GLASSlRKEYcISH LIRA?oN]AMP*S;DiNG,fBLACK P^TAG:iSHOGI PIECErCAPIT) FiOMMAfDAGG*fIGIT THREEeWOj
GREEK SM)L ,TT* IOTAxNORTH EAST PO(T(G ,AFsWEST PO(T(G ,AFwT?iOK H;D?mS;S-S*IF CAPIT) GbLbYtEMICOL:iM)L FgOUTH EAST PO(T(G ,AF
sWEST PO(T(G ,AFyWHITE SHOGI PIECEvT,fWELVE PO(T]BLACK ST&xIST]R<W&DS &ROWSxO AST*ISKS )IGN]V*_C)LY+cBUTT: MOUSEmC:SECU_VE EQ
U)S?SyDOT ,AD*gPUNCTUA_:mS OV* :E DOT PUNCTUA_:+dHE&TSg(T*SECT(G LOGIC) ;DdORxJO(]SQU&ESoLOGIC) ;D OP*ATORmOR OP*ATORtM^ HOLD(
G H;DSrSPEECH BUBB,SoWOM^ HOLD(G H;DSu-EM DASHlUG&I_C ,TT* A(cLPAeBETAeDELTAeH)eGAMLAeHA(fHOaTAeIbKAFcHAdLAMDAfMEMdNUNdPUcQOPA
eRASHAfSADEcMKAeH(dSUdTETcH;NAfOcUbWOcYODdZETAdUjWORD DIVID*uMBRELLA=: GROUNDj%RA( DROPSxNAMUS]FACElC*TA(TY?oD*_EfO SYMBOLjICO
RN FACEj:a. B&. (T*SEC_:w(T*SEC_:sBESIDE ;D JO(]%UNI:+c%LOGIC) ORkM(US?kOV*B&pT SEP&ATORk]SYMBOLkV*S) RECYCL(G SYMBOLyM&RI]P&T
N*SHIP SYMBOL+bP &ROW THROUGH CIRC,pHEAD=BETWE^ TWO HORIZ:T) B&S+b( A RECT;G, BOX+cB&B ,FT DOWN B&B ,FT H&PO:mR< H&PO:+cR< DOW
N B&B ,FT H&PO:mR< H&PO:+iDOWN &ROW=%BASEpBLACK &ROWlDOUB, &ROWmS;S-S*IF &ROWqTRI;G,-HEAD]&ROWvWHITE &ROWqFISH TAILjR< DIA
G:) ELLIPSISxTACK=%CIRC,.x-PO(T(G AIRPL;EiMILIT&Y AIRPL;ErR]TRI;G,mSM)L AIRPL;EiR]TRI;G,sTRI;G, %,FT H)F BLACKpR< H)F BLACK+o
P* ;D ,FT ;D LOW* TRI;GUL& THREE QU&T*S BLOCK+tOW* :E E<H BLOCKqTRI;GUL& H)F BLOCK+bR< ;D LOW* TRI;GUL& THREE QU&T*S BLOCK+zBL
ADE SCISSORSoFIVE E<HS BLOCKsH)F BLOCK=;D LOW* H)F (V*SE MEDIUM SHADE+pCIRC,g(V*SE MEDIUM SHADE ;D LOW* H)F BLOCK+hWHITE CIRC,
uMEDIUM SHADEr,FT BLOCK DIAG:) LOW* C^TRE TO LOW* MIDD, R<sUPP* MIDD, R<mR<v,FT TO LOW* MIDD, R<sUPP* C^TREgMIDD, R<+aMIDD, ,F
T TO UPP* C^TREgMIDD, R<mR<+gUPP* MIDD, ,FT TO UPP* C^TREgR<+vCORN* %DOTpOR LOW* R< CURLY BRACKET SEC_:+kQUADR;T CIRCUL& &CvT
O LOW* R< FILLsRI;G,cUL& MEDIUM SHADE+c:E E<H BLOCKmQU&T* BLOCKrR< BLOCK DIAG:) LOW* MIDD, ,FT TO LOW* C^TREgR<+gUPP* C^TRE T
O LOW* MIDD, R<mR<lUPP* MIDD, R<+c,FT TO LOW* C^TREgMIDD, R<sUPP* MIDD, R<+aMIDD, ,FT TO LOW* C^TREgMIDD, R<mR<+vDROP-SHADOW]W
HITE SQU&E+aOR LOW* ,FT CURLY BRACKET SEC_:+jP^CILgQUADR;T CIRCUL& &CvSHADOW]WHITE CIRC,gSQU&EvTO LOW* ,FT FILLrRI;G,cUL& MEDI
UM SHADE+dSEV^ E<HS BLOCKtTHREE E<HS BLOCKnQU&T*S BLOCKtRI;GUL& :E QU&T* BLOCK+gSIDE-DOWN FACEoW&DS ;CORAfRROW=;D R< :E E<H BL
OCK+aFROM B&i,FTW&DS OF DOWNW&DS &ROW+cTO B&g%DOUB, STROKEnEQUILAT*) &ROWHEADvHORIZ:T) STROKErL&GE TRI;G, &ROWHEADyMEDIUM TRI;
G, &ROWHEADzNOTCH]TAILmSM)L EQUILAT*) &ROWHEADvTRI;G, &ROWHEADy_P ,FTW&DSjR<W&DSzBLACK &ROWfCIRC,D WHITE &ROWzCOMPRESS]&ROWqDA
SH]&ROWlOUB, &ROWmF(G*-POST &ROWrH&PO: %B&B ,FT BESIDE DOWNW&DS H&PO: %B&B R<+hUPW&DS H&PO: %B&B R<+mFROM B&iTO B&hW&DSjR< FRO
M B&iTO B&hW&DS+bEAVY &ROWfCOMPRESS]&ROWwPAIR]&ROWSnQUADRUP, &ROWpROCKETgS;S-S*IF &ROWpQU&]&ROWnTRI;G, &ROWHEADk-HEAD]&ROW=,FT
W&DS OF DOWNW&DS TRI;G,-HEAD]&ROW+sTO B&g%BOLD SHAFTkDOUB, HORIZ:T) STROKEyHEAVY SHAFTlL:G _P ,FTW&DSjR<W&DStMEDIUM SHAFTmN&RO
W SHAFTmV*Y HEAVY SHAFT+bDASH]&ROWmPAIR]&ROWS+aP, &ROWlWO HEAD]&ROWn-HEAD]&ROW FROM SM)L CIRC,r%TRI;G, &ROWHEADS+pWHITE &ROW=F
ROM B&=%HORIZ:T) B&+c: PEDEST)=%HORIZ:T) B&oV*_C) B&+dWITH( TRI;G, &ROWHEAD+fDOUB, &ROW=: PEDEST)+lR;USfScVAI COMMAfD#dZ*OkFUL
L STOPjQUES_: M&KnSYLLAB, AaNcBAbEaEcHAbEaEcIbOaOcUcIbOaOcUcCAbEaEcIbOaOcUcDAbEaEcHAbEaEcHAbEaEcIbOaOcUcIbOaOcUcIbOaOcUcEaEaNc
NcFAbEaEcIbOaOcUcGAbBAbEaEbNcIbOaNbOcUcEaEbNcIbOaOcUcHAaNcEaEbNcIaNcOaNbOcUaNdIaNcJAbEaEcIbOaOcUcKAaNcEaEcIbOaOcPAaNcEaEbNcIbO
aOcUcUcLAbEaEbNGTH^*jIbOaOcUcMAbBAbEaEcIbOaOcUcEaEcGBAbEaEcIbOaOcUdIbOaOcUcNAbDAbEaEcIbOa, DOcF~K~M~SOOgOcUcEaEcGa;c^cGAbEaEbN
cIbOaOcUc:dIbJAbEaEcIbOaOcUcOaOcUbYAbEaEcIbOaOcUdOaNbOaNdPAbEaEcIbOaOcUcRAbEaEcIbOaOcUcSAbEaEcHAbEaEcIbOaOcUcIbOaOcUcTAbEaEcHA
bEaEcIbOaOcUcIbOaOcUcUaNcVAbEaEcIbOaOcUcWAaNcEaEaNcNcIaNcOaNbOaNdUaNdYAbEaEcIbOaOcUcZAbEaEcHAbEaEcIbOaOcUcIbOaOcUjMBOL B;GeD;G
dO-Oc:GfFA~E^GfJ:GeKE^GeUNGeNIIdTA~(Gd:GnMPIREfRIA_: SE,CTOR-1a0a!c1a!c2a!c3a!c4a!c5a!c6a!c7a!c8a!c9a!d2a0a!c1a!c2a!c3a!c4a!c5
a0b1b2b3b4b5b6c6b7b8b9c3a!c4a!c5a!c6a!c7a!c8a!c9a!uECTOR OR CROSS PRODUCTvDIC? ;USV&A ;T&GOMUKHAmBAHIRGOMUKHAmUBHAYATO MUKHAoV
AMAGOMUKHA=%TAIL+dRDHAVIS&GAl_KRAMAiDOUB, ;USV&A ;T&GOMUKHA+cHEXIFORM L:G ;USV&AwJIHVAMULIYAlL:G ;USV&AnNIHSHVASAjREV*S]VIS&G
A ;UDATTAiUDATTAwOTAT]&DHAVIS&GAtTH;G L:G ;USV&Au_RYAKgUPADHM;IYAlVIS&GA ;UDATTA=%TAILsSV&ITAhUDATTA=%TAILyYAJURVEDIC MIDL(E S
V&ITA+fT:E ATH&VAVEDIC (DEP^D^T SV&ITA+gC;DRA.f|mDOT |hUB, R(G.kSV&ITAoK&SH;AgTHAKA ;UDATTAqPR^KHAhRIGVEDIC KASHMIRI (DEP^D^
T SV&ITA+jNG.kSH&AfTHREE DOTS |pRIP, SV&ITAnWO DOTS |oYAJURVEDIC AGGRAVAT](DEP^D^T SV&ITA+e(DEP^D^T SV&ITAtKATHAKA (DEP^D^T S
V&ITA=SCHROED*++fRSIC,f_C) B& BESIDE R< TRI;G,vDOUB, ,FT TURNS_,vTRIP, R< TURNS_,w%HORIZ:T) STROKE+aELLIPSISiFOUR DOTSjIDEOGRA
PHIC IT*A_: M&K+aK;A REPEAT M&K=LOW* H)FkUPP* H)Fp%VOIC]SOUND M&K=UPP* H)F+tL(E=EXT^SI:j%CIRC,.f|mMIDD, DOTuM)E %STROKE?v:E E<
H BLOCK-2b3b4b5b6b7sSIX DOTSiTAB KEYeULA_:=SETnILDEeRAFFIC L<nZIGZAG L(ErY BOLD GREEK CROSSqHEAVY E< PO(T]BLACK ST&sSPOK]AST*I
SKvFIVE SPOK]AST*ISKuGREEK CROSSlREV*SE SOLIDUSpS)_REgIX SPOK]AST*ISKsOLIDUShWHITE CIRC,gSQU&EsMUCH GREAT*-TH;m,SS-TH;rSTAeIBR
A_: MODEmCTORY H;DkDEO CAM*AgGAMEfCASSETTElETNAMESE )T*NATE READ(G M&K C~NHAY+jWDATA SQU&EnOL(eRGOdTHKUQI CAPIT) ,TT* AbBBEcEc
CEbHEdDEbHEdEaIcFEcG~H>dIaJEdJEcK~LAbLAdMEcNEbJEdObPEcQ~REcSEbHEdTEbHEdUbVEcXEcYbZErSM)L ,TT* AbBBEcEcCEbHEdDEbHEdEaIcFEcG~H>d
IaJEdJEcK~LAbLAdMEcNEbJEdObPEcQ~REcSEbHEdTEbHEdUbVEcXEcYbZExOID]GREEK CROSSqLC;Oe,YB)LhUME (TEGR)oS1a0a!c1a!c2a!c3a!c4a!c5a!c6
a!c7a!c8a!c9a!d2a0a!c1a!c2a!c3a!c4a!c5a0b1b2b3b4b5b6c6b7b8b9c3a!c4a!c5a!c6a!c7a!c8a!c9a!dTaScULC;USfG& FRAC_: FIVE E<HShSIXTHS
kOUR FIFTHSl:E E<HgFIFTHfH)FeN(THfQU&T*hSEV^THgIXTHfT^THeHIRDjSEV^ E<HSnTHREE E<HShFIFTHSgQU&T*SnWO FIFTHSgTHIRDSkZ*O THIRDS+b
WAFF,eNCHO D#dZ*Ok,TT* AaAaNaGdNGcUcB~C~D~EaNcF~G~H~IaNGdJ~K>dLAbLHAeM~NAbG~YAdOaNaGdP>dR~S>dT>cR~SAdUa^dV~W~YAbIHdZAjNGUN?jT:
E KOIaNIfTUPaNIo(G CRESC^T MO: SYMBOLuGIBBOUS MO: SYMBOLyR;G CI_ CAPIT) ,TT* AaMbNGcTcBUcD~EaNNbYdG~H&cIYOdOLOcRReIIcKOcNGAAdU
NGeOaDDdPUcSIIcSUUeTTEdUCbUcVIYOeWIcYAbObUaJsD#dZ*OkNUMB* E<YgFIFTYeORTYfN(ETYgSEV^TYgIXTYfT^cHIRTYfW^TYnOMcSM)L ,TT* AaMbNGcT
cBUcD~EaNNbYdG~H&cIYOdOLOcRReIIcKOcNGAAdUNGeOaDDdPUcSIIcSUUeTTEdUCbUcVIYOeWIcYAbObUaJzN(G?kSTEBASKETjTCHc* BUFF)OhCLOSETgPOLOe
WAVEfMEL:iVE &ROW PO(T(G DIRECTLY ,FTeR<+dDASHg(G BLACK FLAGkH;D?jWHITE FLAGoY DASHeL(EdOW L(EiOV*L(ElX(G CRESC^T MO: SYMBOLuG
IBBOUS MO: SYMBOLzE&Y CAT FACEiFACEiDD(GeGE-TAI,D R<W&DS &ROW+bI*STRASS ELLIP_C FUNC_:+aGHT LIFT*lST SYRIAC CROSSqH)EdEEL=OF D
H&MAkCHAIR SYMBOLpITE &ROW SHAFT WIDTH :EdTWO THIRDS+cBUL,TgCHESS BISHOP=ROTAT]N(ETY DEGREESoTWO HUNDR]SEV^TY DEGREES+qEQUIHOP
P*=ROTAT]N(ETY DEGREES+hK(G=ROTAT]N(ETY DEGREESoTWO HUNDR]SEV^TY DEGREES+nN<=ROTAT]FORTY-FIVE DEGREESsN(ETY DEGREESo:E HUNDR]T
HIRTY-FIVE DEGREES+fTHREE HUNDR]FIFTE^ DEGREES+cWO HUNDR]SEV^TY DEGREESpTW^TY-FIVE DEGREES+o-BISHOPgQUE^fROOKlPAWN=ROTAT]N(ET
Y DEGREESoTWO HUNDR]SEV^TY DEGREES+oQUE^=ROTAT]N(ETY DEGREESoTWO HUNDR]SEV^TY DEGREES+pROOK=ROTAT]N(ETY DEGREESoTWO HUNDR]SEV^
TY DEGREES+oTURN]BISHOPgK(GdN<gPAWNeQUE^fROOKqIRC,=C:TA((G BLACK SM)L CIRC,+d%DOT R<hWN &ROWkLOW* ,FT QUADR;TnR< QUADR;TuTWO D
OTSiUPP* ,FT QUADR;TnR< QUADR;T+fLUB SUITi:CAVE-SID]DIAM:D=%,FTW&DS _CKoR<W&DS _CK+qDIAM:D=C:TA((G BLACK MEDIUM DIAM:DoSM)L DI
AM:DnV*Y SM)L DIAM:D+j( SQU&EjSUITe%C^TR]DOTxOWN PO(T(G BACKH;D (DEXo(DEXf,FT H;D (DEXz-PO(T(G SM)L TRI;G,oTRI;G,vRAUGHTS K(Ge
M;mEXCLAMA_: M&K ORNAM^TzFLAG=%HORIZ:T) MIDD, BLACK STRIPE+mORETTEfW*fOUR PO(T]CUSPeST&qROWN(G FACEnH&D SHELL FLOPPY DISKvE&T=
SUIThVY CHECK M&KkS)_RE %ROUND]CORN*S+gXAG:gORIZ:T) ELLIPSEqURGLASSjL&GE SQU&EkT( CROSSkEFT L;E M*GEkPO(T(G BACKH;D (DEXo(DEX
p-PO(T(G PO(T*hSM)L TRI;G,oTRI;G,vOZ^GE C:TA((G BLACK SM)L LOZ^GE+mMEDIUM DIAM:DhLOZ^GEhSM)L SQU&ElQU&EfT&kO: SE,NAlNIBdP&),LO
GRAMm^N;TeTAG:iQUES_: M&K ORNAM^TwRECT;G,i< PO(T(G BACKH;D (DEXo(DEXp-PO(T(G P^TAG:hO(T*hSM)L TRI;G,oTRI;G,xSCISSORShESAME DOT
jHOGI PIECEkM)L LOZ^GEhSQU&EfT&iIL(G FACElPADE SUITjQU&E=BUTT:gC:TA((G BLACK MEDIUM SQU&EnSM)L SQU&EmV*Y SM)L SQU&E+i%C^TR
E V*_C) L(Eu,FTW&DS _CKnOW* ,FT QUADR;TnR< QUADR;TuR<W&DS _CKoOUND]CORN*SpUPP* ,FT QUADR;TnR< QUADR;TuV*_C) BISECT(G L(E+iT&dU
N=BEH(D CLOUD=%RA(w%RAYSeSM)L CLOUDuTE,PH:EiOUCHT:E TE,PH:EsRAPEZIUMhI;G, C:TA((G SM)L WHITE TRI;G,+nWO-WAY ,FT WAY TRAFFICyU
P PO(T(G BACKH;D (DEXo(DEXp-PO(T(G CHEVR:hSM)L TRI;G,oTRI;G,=%DOT+dV*_C) B&dELLIPSEhRECT;G,pY SM)L SQU&Es-FEATH*]R<W&DS &ROW+f
IDE-HEAD]DOWNW&DS B&B &ROWkHEAVY B&B &ROWqL< B&B &ROWqMEDIUM B&B &ROWrV*Y HEAVY B&B &ROW+f,FTW&DS B&B &ROWkHEAVY B&B &ROWq
L< B&B &ROWqMEDIUM B&B &ROWrV*Y HEAVY B&B &ROW+fNORTH EAST B&B &ROWkHEAVY B&B &ROWqL< B&B &ROWqMEDIUM B&B &ROWrV*Y HEAVY B&B &
ROW+aWEST B&B &ROWkHEAVY B&B &ROWqL< B&B &ROWqMEDIUM B&B &ROWrV*Y HEAVY B&B &ROW+gR<W&DS B&B &ROWkHEAVY B&B &ROWqL< B&B &ROWqM
EDIUM B&B &ROWrV*Y HEAVY B&B &ROW+gSOUTH EAST B&B &ROWkHEAVY B&B &ROWqL< B&B &ROWqMEDIUM B&B &ROWrV*Y HEAVY B&B &ROW+aWEST B&
B &ROWkHEAVY B&B &ROWqL< B&B &ROWqMEDIUM B&B &ROWrV*Y HEAVY B&B &ROW+gUPW&DS B&B &ROWkHEAVY B&B &ROWqL< B&B &ROWqMEDIUM B&B &R
OWrV*Y HEAVY B&B &ROW+nGGLY V*_C) L(EsLT]FLOW*lND BLOW(G FACEmCHIMEgOWdE GLASShK(G FACEkR]KEYBO&DnJbOLF FACEhM;=%BUNNY E&SqS B
OOTSfCLOTHEShHATdS;D)k^S SYMBOLlN?gODcRD JO(*gSEP&ATOR MIDD, DOTwLD MAPgMbRI]FACElRAPP]PRES^TnEATH PRODUCTlNCHdSTL*ShIT(G H;Dm
X ( A RECT;G, BOXt-RAYeI;GQI BLACK C;N:fH&IOThE,PH;TiG^*)hHORSEfM;D&(iSOLDI*nR]C;N:fH&IOThE,PH;TiG^*)hHORSEfM;D&(iSOLDI*sORdYA
WN(G FACElELLOW HE&TkN?gZIDI COMB((G HAMZA M&KkMADDA M&KuHYPH^A_: M&Kq,TT* BEcCHHIMdIMdIMdDADbLdELIFdTbWbYNdF~GAFdHAYcHAdJ~KAF
cHAFeLAM=%DOT.sMIMdNUNdOWcPEbHEdQAFdR>dSADcEbH(d(dTAbHEdUMcVA=)T*NATE$rWAWdXAbHEYNfYOT=%CIRCUMF,X.zZAaLcEpI RADIC) BBUTdURdCHE
cIPcUOPdYaPbTdDDURdUcGAbEPcGOPcUOdOTdHMOcXITcOPcUOeJJIEcUTcYcOcKEbITdLIaEcYRdMIbOPdNBIEdYIPcOPdZUPeOPcPUTcYTdQOTdSHATcOPcURcYc
SIdTATcUcVEPcURdWOcYITcOcZAbOTcUPbRcZIETnSYLLAB, AaPbTbXcBAaPbTbXcBAaPbTbXcEaPbXcIaEaPbTbXcPbTbXcOaPbTbXcUaOaPbXcPbRaXcTbXcYaP
bTbXdEaPbXcIaEaPbTbXcPbTbXcOaPbTbXcUaOaPbXcPbRaXcTbXcYaPbRaXcTbXdCAaPbTbXcEaPbXcHAaPbTbXcEaPbTbXcOaPbTbXcUaOaPbTbXcPbRaXcXcYaP
bRaXcTbXdIaEaPbTbXcPbTbXcOaPbTbXcUaOaPbXcPbRaXcTbXcYaPbRaXcTbXdDAaPbTbXcDAaPbTbXcEaPbXcIaEaPbXcPbTbXcOaPbTbXcUaOaPbXcPbRaXcTbX
dEaPbXcIaEaPbXcPbTbXcOaPbTbXcUaOaXcPbRaXcTbXdEaXcFAaPbTbXcIaPbTbXcOaPbXcUaPbRaXcTbXcYaPbTbXdGAaPbTbXcEaPbTbXcGAaPbTbXcEaPbTbXc
IaEaPbXcTbXcOaPbTbXcUaOaPbTbXcPbRaXcTbXdIaEaPbTbXcPbTbXcOaPbTbXcUaOaPbTbXcPbRaXcTbXdHAaPbTbXcEaPbXcIEaXcTcLAaPbTbXcEaPbXcIaEaP
bXcPbTbXcOaPbXcUaOaPbXcPbRaXcTbXcYaPbRaXcTbXdMAaPbTbXcIaEaPbXcPbTbXcOaPbTbXcUaOaPbXcPbRaXcTbXcYaPbRaXcXdNAaPbTbXcEaPbXcIaEaPbT
bXcPbTbXcOPbTbXcUOaXcTdOaPbTbXcUOaPbTbXdXAaPbTbXcEaPbXcIaEaPbTbXcPbTbXcOaPbTbXcUOaPbTbXfIaEaPbTbXcPbTa*A_: M&KnXcJIaEaPbTbXcPb
TbXcJIaEaPbTbXcPbTbXcOaPbTbXcUaOaPbXcPbRaXcTbXcYaPbTbXdOaPbTbXcUaOaPbTbXcPbRaXcTbXcYaPbRaXcTbXdKAaPbTbXcEaPbTbXcIaEaPbXcPbTbXc
OaPbTbXcUaOaPbXcPbRaXcTbXdLAaPbTbXcEaPbXcIaEaPbTbXcPbTbXcOaPbTbXcUaOaPbTbXcPbRaXcTbXcYaPbRaXcTbXdMAaPbTbXcEaXcGAaPbTbXcEaPbXcI
EaXdOaPbTbXcUaOaPbXcPbRaXcTbXdIaEaPbXcPbTbXcOaPbTbXcUaOaPbTbXcPbRaXcTbXcYaPbTbXdNAaPbXcBAaPbTbXcIaEaPbXcPbTbXcOaPbTbXcUaPbRaXc
TbXcYaPbRaXcTbXdDAaPbTbXcEaPbXcIaEaXcPbTbXcOaPbTbXcUaPbRaXcTbXdEaPbXcGAaPbTbXcEaPbXcIEaPbXdOaPbTbXcUOaTbXeIaEaPbXcPbTbXcJIaEaP
bTbXcPbTbXcOaPbTbXcUaOaXcPbRaXcXcYaPbRaXcTbXdOaPbTbXcRAaPbTbXcEaPbTbXcOaPbXcUaPbRaXcTbXcYaPbRaXcTbXdUaOaPbXcPbRaXcTbXcYIaEaPbT
bXcPbTbXcOaPbTbXcUaOaPbXcPbTbXdZAaPbTbXcEaXcIaEaPbXcPbTbXcOPbXcUaOaXcPbRaXcXcYaPbRaXcTbXeOaPbTbXcPAaPbTbXcIaEaPbXcPbTbXcOaPbTb
XcUaOaPbXcPbRaXcTbXcYaPbRaXcTbXdQIaEaPbTbXcPbTbXcOaPbTbXcUaOaPbTbXcPbRaXcTbXcYaPbRaXcTbXdRAaPbTbXcEaPbXcOaPbTbXcRAaXcEaPbTbXcO
aPbTbXcUaOaXcPbRaXcTbXcYaPbRaXcTbXdUaOaPbXcPbRaXcTbXcYaPbRaXcTbXdSAaPbTbXcEaPbXcHAaPbTbXcEaPbTbXcOaPbTbXcUaOaPbXcPbRaXcTbXcYaP
bRaXcTbXdIaEaPbXcPbTbXcOaPbTbXcSAaPbTbXcEaPbXcIaEaPbXcPbTbXcOaPbTbXcUaPbTbXcYaPbRaXcTbXdUaOaPbXcPbRaXcTbXcYaPbRaXcTbXdTAaPbTbX
cEaPbXcIaEaPbXcPbTbXcOaPbTbXcUaOaPbTbXcPbRaXcTbXdUOaPbXdVAaPbTbXcEPbXcIaEaPbTbXcPbTbXcOaPbTbXcUaPbRaXcTbXcYaPbRaXcTbXdWAaPbTbX
cEaPbXcOaPbXcUaOaPbXeXIaEaPbTbXcPbTbXcOaPbTbXcUOaXdYaPbRaXcTbXdYIaEaPbTbXcPbTbXcOaPbTbXcUaOaPbTbXcPbRaXcTbXcYaPbRaXcTbXdZAaPbT
bXcEaPbXcHAaPbTbXcEaPbTbXcOaPbTbXcUaOaPbXcPbRaXcTbXcYaPbRaXcTbXdIaEaPbXcPbTbXcOaPbTbXcUaOaPbXcPbRaXcTbXcYaPbRaXcTbXcZAaPbTbXcE
aPbXcIaEaPbTbXcPbTbXcOaPbXcUaPbRaXcXcYaPbRaXcTbXoN Y;GhO-YOfZ NOTA_: BAG MEMB*SHIPoDOMA( ;_RESTRIC_:w,FT B(D(G BRACKETpIMAGE B
RACKETsR;GE ;_RESTRIC_:uELA_:) COMPOSI_:v< B(D(G BRACKETpIMAGE BRACKETtSCHEMA COMPOSI_:lPIP(GfROJEC_:qPOTeTYPE COL:u;ABAZ& SQ
U&E CLOS(G DOUB,-L(]HEAD M&KwHEAD M&KpUST*-F() ,TT* L~R~V~YAp(I_) ,TT* RAzF() C:S:;T M&Ku(I_) DOUB,-L(]HEAD M&KwHEAD M&Kr,T
T* -~AbB>dC>dDAbD>dH~Z>eG>dH~J~K>cSSAeL~M~NAbG~N~YAdP>dR~S>cSAdT>cS>dT>eV~Y~Z>kM&K DOUB, SHADlL:G TSHEGkSHADeTSHEGkSIGN ;USV&A
iC;DRA %ORNAM^ToB(DU=%ORNAM^TzVIRAMAeS&GAlUBJO(*jVOWEL ,NGTH M&KlSIGN AIbUcEbIbOaEcREV*S]IkUaE+dEBRA FACEiRO WIDTH JO(*gNO-BRE
AK SPACEmN-JO(*kSPACEoUSdIPP*-MOUTH FACEqNAM^NY COMB((G ATTACH(G V*_C) OMETxLOW* T:) R;GE (DICATOR+bM&K BORZAYAhCHASHKA=POLNAY
AoURV]OMETlDEMESTV^NY ZAD*ZHKAuVOETOCHIEkGORAZDO NIZKO : ,FTeR<iS KRYZHEM : ,FTeR<yVYSOKOoKACHKAfRYZH=: ,FTmUPNAYAhLOMKAfM)O P
OVYSHE : ,FTeR<iS KHOKHLOM : ,FTeR<qRYZHEMiTR;NOuNIZKO : ,FTeR<iS KRYZHEM : ,FTeR<yOBLACHKOhNbTSECHKAiPODCHASHIE=%V*_C) STROK
E+cV*TKAhVYSHE : ,FTeR<iS KHOKHLOM : ,FTeR<qRYZHEMiTR;NOpRAVNOdZSEKAhSKOBAeOROCHYA NOZHKAoREDNE : ,FTeR<oTR;NO M)O POVYSHEu_KH
AYAgOCHKAfSATA : ,FTeR<iS KRYZHEMpUD&KAgVYSOKO : ,FTeR<iS KHOKHLOM : ,FTeR<qRYZHEMqZAD*ZHKAiELOcVOKkT:) R;GE M&K MRACHNOhSVETL
OgTRESVETLO+kNEUME CHASHKAfELYUSTKAkDEMESTV^NY KLYUCHqRBITSAhOUB, ZAPYATAYApUDAdVA V CHELNUmFITAeGOLUBCHIK BORZYfMRACHNYhSVETL
Yg_KHYeRESVETLYtKHAMILOgLYUCHfOBYLAfRYUK=_KHYiZHeUFISMAhMECHIK=KLYUCH^EPOSTOY;NYmPOVODNYhVOYkPOVODNYoNEMKAfOBLAKOfSOKA=KLYUCHE
VAYA NEPOSTOY;NAYAoSVETLAYAtRYUKOVAYA SVETLAYAtSVETLAYAiTRESVETLAYArP)KAdRAKLITgUKd*EVODKA=NEPOSTOY;NAYAxODCHASHIEiLKULIZMYkRE
V*S]CHELYUSTKAsOGdSKAMEYTSA DVOECHELNAYA KLYUCHEVAYAlNEPOSTOY;NAYAoPROSTAYAiSVETLAYAvKLYUCH^EPOSTOY;NAYAoVAYA SVETLAYAi_KHAYAt
MRACHNAYAjSVETLAYAi_KHAYAgRESVETLAYAuLOZHI_E=S KRYZHEMhZAPYATOYkZAKRYTOErTATYA=NEPOSTOY;NAYAoS DVUMYA ZAPYATYMIqKRYZHEM=I ZAPY
ATOYsROGOMfZAPYATOY=I KRYZHEMhPODCHASHIEMyZAKRYTAYA=S ZAPYATOYzOPITSA=S OCHKOMi%SOROCHYA NOZHKA+bRELA DVOECHELNAYA=KLYUCHEVAYA
pOKRYZHEVAYAkPOVODNAYA=KLYUCHEVAYA+fGROMNAYA=%S(G, ZAPYATAYA+aOKRYZHEVAYA=POVODNAYAuPOVODNAYA=%DOUB, ZAPYATAYAqS(G, ZAPYATAYA+
kKLYUCH^EPOSTOY;NAYAoPOVODNAYApRYUKOVAYA=GROMNAYA=%S(G, ZAPYATAYA+aOKRYZHEVAYA=POVODNAYAuPOVODNAYA=%DOUB, ZAPYATAYAqS(G, ZAPYA
TAYA+kPOVODNAYAjTRYASKApZHEVAYAkMRACHNO_KHAYAoNEPOSTOY;NAYAoPOLUPOVODNAYAlVODNAYAiROSTAYAi_KHAYA PUTNAYAoRYASOGLASNAYAiPOVODNA
YAjSTRELNAYAwVRAKHIYA KLYUCHEVAYA MRACHNAYAjPROSTAYAiSVETLAYAiTRESVETLAYAxMRACHNAYAjPROSTAYAiSVETLAYAiTRESVETLAYAuZ;OZHEKgPYAT
AYAiMEYTSAnPRIZNAK MODIFI* DIREC_: FLIPoKRYZHf,VEL-2b3hROG+cOMBIEfWJbNBSPdJcSP"

end TypedOperations.Text

import TypedOperations.Declaration.ElementMap
import TypedOperations.Language.Token
import TypedOperations.Proofs.Declaration.Properties
import TypedOperations.Proofs.Expression.Types
import TypedOperations.Proofs.Naming.Singular
import TypedOperations.Proofs.Options

/-!
# Types in generated texts

The layers of a type can be read off its annotation, where a nullable layer is marked, and off its tag, where a required one is.
The two agree with each other and with the expression that maps the elements of its values, also where a field is conditional and
its type loses a required layer.
-/

namespace TypedOperations

open Expression

/-! ## Layers -/

/-- The type that an annotation stands for; none if a layer is marked twice. -/
def annotatedType? : TypeExpression → Option (TypeRef String)
  | .name text => some (.named text true)
  | .list item => (annotatedType? item).map (.list · true)
  | .optional inner => (annotatedType? inner).bind fun t => if t.isRequired then some t.nullable else none

/-- The type that a tag stands for; none if a layer is marked twice. -/
def taggedType? : OutputExpression → Option (TypeRef String)
  | .scalar name => some (.named name false)
  | .object record => some (.named record false)
  | .list item => (taggedType? item).map (.list · false)
  | .nonNull inner => (taggedType? inner).bind fun t => if t.isRequired then none else some (t.withRequired true)

section
variable {o : Options} {inner record name : String} {t : ResolvedType}

theorem annotatedType?_allowNone {e : TypeExpression} {t : TypeRef String} (he : annotatedType? e = some t)
    (ht : t.isRequired = true) (required : Bool) :
    annotatedType? (.allowNone (!required) e) = some (t.withRequired required) := by
  cases required with
  | true =>
    have hsame : t.withRequired true = t := by cases t <;> simp_all [TypeRef.withRequired, TypeRef.isRequired]
    rw [hsame]
    exact he
  | false => simp [TypeExpression.allowNone, annotatedType?, he, ht, TypeRef.nullable]

theorem taggedType?_markRequired {e : OutputExpression} {t : TypeRef String} (he : taggedType? e = some t)
    (ht : t.isRequired = false) (required : Bool) :
    taggedType? (.markRequired required e) = some (t.withRequired required) := by
  cases required with
  | true => simp [OutputExpression.markRequired, taggedType?, he, ht]
  | false =>
    have hsame : t.withRequired false = t := by cases t <;> simp_all [TypeRef.withRequired, TypeRef.isRequired]
    rw [hsame]
    exact he

/-- The annotation of a type has its layers, around the annotation of its named type. -/
theorem exists_annotation (hname : o.typeName inner t.base = .ok name) :
    ∃ e, o.typeExpression inner t = .ok e ∧ e.base = name ∧ annotatedType? e = some (t.map fun _ => name) := by
  induction t with
  | named t required =>
    refine ⟨_, bind_eq_ok.mpr ⟨name, hname, rfl⟩, TypeExpression.base_allowNone _ _, ?_⟩
    exact annotatedType?_allowNone (t := .named name true) rfl rfl required
  | list item required ih =>
    obtain ⟨e, he, hbase, hlayers⟩ := ih hname
    refine ⟨_, bind_eq_ok.mpr ⟨e, he, rfl⟩, (TypeExpression.base_allowNone _ _).trans hbase, ?_⟩
    have hlist : annotatedType? (.list e) = some (.list (item.map fun _ => name) true) := by rw [annotatedType?, hlayers]; rfl
    exact annotatedType?_allowNone hlist rfl required

theorem tagBase_markRequired (required : Bool) (e : OutputExpression) : tagBase (.markRequired required e) = tagBase e := by
  cases required <;> rfl

/-- The tag of a type has its layers, around the tag of its named type. -/
theorem exists_tag {leaf : OutputExpression} (hleaf : o.outputName record t.base = .ok leaf)
    (hlayer : taggedType? leaf = some (.named (tagBase leaf) false)) :
    ∃ e, o.outputExpression record t = .ok e ∧ tagBase e = tagBase leaf ∧
      taggedType? e = some (t.map fun _ => tagBase leaf) := by
  induction t with
  | named t required =>
    refine ⟨_, bind_eq_ok.mpr ⟨leaf, hleaf, rfl⟩, tagBase_markRequired _ _, ?_⟩
    exact taggedType?_markRequired hlayer rfl required
  | list item required ih =>
    obtain ⟨e, he, hbase, hlayers⟩ := ih hleaf
    refine ⟨_, bind_eq_ok.mpr ⟨e, he, rfl⟩, (tagBase_markRequired _ _).trans hbase, ?_⟩
    have hlist : taggedType? (.list e) = some (.list (item.map fun _ => tagBase leaf) false) := by rw [taggedType?, hlayers]; rfl
    exact taggedType?_markRequired hlist rfl required

end

/-- Types of one named type that look alike whatever its name are the same. -/
theorem TypeRef.eq_of_map {α β : Type} {f : α → β} {t t' : TypeRef α} (hbase : t.base = t'.base) (h : t.map f = t'.map f) :
    t = t' := by
  induction t generalizing t' with
  | named a required =>
    cases t' with
    | named b required' =>
      cases hbase
      rw [(TypeRef.named.inj h).2]
    | list item' required' => cases h
  | list item required ih =>
    cases t' with
    | named b required' => cases h
    | list item' required' =>
      obtain ⟨hitem, hrequired⟩ := TypeRef.list.inj h
      have hsame : item = item' := ih hbase hitem
      rw [hsame, hrequired]

/-! ## Names of types -/

theorem isIdentifier_append {a b : String} (ha : Text.isIdentifier a = true)
    (hb : b.toList.all Text.isIdentifierContinue = true) : Text.isIdentifier (a ++ b) = true := by
  rw [Text.isIdentifier] at ha ⊢
  rw [String.toList_append]
  cases hchars : a.toList with
  | nil =>
    rw [hchars] at ha
    cases ha
  | cons c rest =>
    rw [hchars, Bool.and_eq_true] at ha
    simp [ha.1, ha.2, hb]

theorem isNameContinue_of_beyond {c : Char} (hc : 128 ≤ c.toNat) : Language.isNameContinue c = false := by
  have hupper : c.isUpper = false := by
    rw [Bool.eq_false_iff, ne_eq, Text.isUpper_iff]
    omega
  have hlower : c.isLower = false := by
    rw [Bool.eq_false_iff, ne_eq, Text.isLower_iff]
    omega
  have hunderscore : c ≠ '_' := by
    rintro rfl
    exact absurd hc (by decide)
  simp [Language.isNameContinue, Char.isAlphanum, Text.isAlpha_eq, hupper, hlower, Source.isDigit_of_beyond hc, hunderscore]

/-- A name of the language is an identifier, and may be put after one. -/
theorem isIdentifier_of_isName {s : String} (hs : Language.isName s = true) :
    Text.isIdentifier s = true ∧ s.toList.all Text.isIdentifierContinue = true := by
  have hcontinue : ∀ {c : Char}, Language.isNameContinue c = true → Text.isIdentifierContinue c = true := fun {c} =>
    Text.of_ascii (P := fun c => Language.isNameContinue c = true → Text.isIdentifierContinue c = true) (by decide +kernel)
      fun hc h => by rw [isNameContinue_of_beyond hc] at h; cases h
  have hstart : ∀ {c : Char}, Language.isNameStart c = true →
      Text.isIdentifierStart c = true ∧ Language.isNameContinue c = true := fun {c} =>
    Text.of_ascii (P := fun c => Language.isNameStart c = true →
        Text.isIdentifierStart c = true ∧ Language.isNameContinue c = true) (by decide +kernel) fun hc h => by
      have hname : Language.isNameContinue c = true := by
        simp only [Language.isNameStart, Language.isNameContinue, Char.isAlphanum, Bool.or_eq_true] at h ⊢
        grind
      rw [isNameContinue_of_beyond hc] at hname
      cases hname
  rw [Language.isName] at hs
  rw [Text.isIdentifier]
  cases hchars : s.toList with
  | nil =>
    rw [hchars] at hs
    cases hs
  | cons c rest =>
    rw [hchars, Bool.and_eq_true, List.all_eq_true] at hs
    have hrest : rest.all Text.isIdentifierContinue = true := List.all_eq_true.mpr fun d hd => hcontinue (hs.2 d hd)
    have hfirst := hstart hs.1
    simp [hfirst.1, hrest, hcontinue hfirst.2]

namespace Options

variable {o : Options} {inner record name : String} {t : NamedType}

theorem isDotted_scalar (ho : o.WellNamed) (hname : Language.isName name = true) : isDotted (o.scalar name) = true := by
  have hbuilt : ∀ e ∈ scalarNames, isDotted e.2 = true := by decide +kernel
  rw [scalar]
  split
  · rename_i built hget
    exact hbuilt _ (Entries.mem_of_get? hget)
  · split
    · obtain ⟨hidentifier, hcontinue⟩ := isIdentifier_of_isName hname
      rw [customScalar]
      rcases ho.scalars with hempty | hlead
      · rw [hempty, String.empty_append]
        exact isDotted_of_isIdentifier hidentifier
      · exact isDotted_of_isIdentifier (isIdentifier_append hlead hcontinue)
    · decide +kernel

theorem isDotted_qualify (ho : o.WellNamed) (hname : Language.isName name = true) : isDotted (o.qualify name) = true := by
  have hdotted := isDotted_of_isIdentifier (isIdentifier_of_isName hname).1
  rw [qualify]
  split
  · rename_i w hw
    exact isDotted_append (isDotted_of_isIdentifier (ho.wrapper w hw)) hdotted
  · exact hdotted

/-- A type that is declared is annotated with the name that is given for it, with its own or with that of a scalar. -/
theorem exists_typeName (o : Options) (inner : String) (ht : t.kind ≠ .undeclared) : ∃ name, o.typeName inner t = .ok name ∧
    (name = inner ∧ inner ≠ "" ∨ name = o.scalar t.name ∨ name = o.qualify t.name) := by
  rw [typeName]
  split
  · rename_i hgiven
    rw [Bool.and_eq_true, bne_iff_ne] at hgiven
    exact ⟨inner, rfl, Or.inl ⟨rfl, hgiven.1⟩⟩
  · split
    · exact ⟨_, rfl, Or.inr (Or.inl rfl)⟩
    · rw [if_neg (by simpa using ht)]
      by_cases hinner : inner = ""
      · exact ⟨o.qualify t.name, by simp [hinner], Or.inr (Or.inr rfl)⟩
      · exact ⟨inner, by simp [hinner], Or.inl ⟨rfl, hinner⟩⟩

/-- The tag of a type that a field can have. -/
theorem exists_outputName (ho : o.WellNamed) (ht : t.kind.isOutput = true) (hname : Language.isName t.name = true)
    (hrecord : t.kind.isComposite = true → isDotted record = true) :
    ∃ leaf, o.outputName record t = .ok leaf ∧ isDotted (tagBase leaf) = true ∧
      taggedType? leaf = some (.named (tagBase leaf) false) := by
  rw [outputName]
  cases hkind : t.kind with
  | scalar => exact ⟨_, rfl, isDotted_scalar ho hname, rfl⟩
  | enum => exact ⟨_, rfl, isDotted_qualify ho hname, rfl⟩
  | object => exact ⟨_, rfl, hrecord (by rw [hkind]; rfl), rfl⟩
  | interface => exact ⟨_, rfl, hrecord (by rw [hkind]; rfl), rfl⟩
  | union => exact ⟨_, rfl, hrecord (by rw [hkind]; rfl), rfl⟩
  | inputObject =>
    rw [hkind] at ht
    cases ht
  | undeclared =>
    rw [hkind] at ht
    cases ht

end Options

/-! ## Reading types back -/

/-- The type that a text annotates. -/
def readType (text : String) : Option (TypeRef String) :=
  (readWhole readAnnotated text).bind annotatedType?

/-- The type that a text tags. -/
def readTaggedType (text : String) : Option (TypeRef String) :=
  (readWhole readTag text).bind taggedType?

/-- The named type can be that of a field, and has a name of the language. -/
structure IsOutput (t : ResolvedType) : Prop where
  kind : t.base.kind.isOutput = true
  name : Language.isName t.base.name = true

section
variable {o : Options} {inner record : String} {t t' : ResolvedType}

theorem IsOutput.declared (ht : IsOutput t) : t.base.kind ≠ .undeclared := by
  intro h
  have hkind := ht.kind
  rw [h] at hkind
  cases hkind

theorem exists_readType (ho : o.WellNamed) (hinner : inner = "" ∨ isDotted inner = true) (ht : IsOutput t) :
    ∃ e name, o.typeExpression inner t = .ok e ∧ o.typeName inner t.base = .ok name ∧
      readType e.text = some (t.map fun _ => name) := by
  obtain ⟨name, hname, hcases⟩ := Options.exists_typeName o inner ht.declared
  obtain ⟨e, he, hbase, hlayers⟩ := exists_annotation hname
  have hdotted : isDotted e.base = true := by
    rw [hbase]
    rcases hcases with ⟨rfl, hne⟩ | rfl | rfl
    · exact hinner.resolve_left hne
    · exact Options.isDotted_scalar ho ht.name
    · exact Options.isDotted_qualify ho ht.name
  exact ⟨e, name, he, hname, by rw [readType, readAnnotated_text e hdotted, Option.bind_some, hlayers]⟩

theorem exists_readTaggedType (ho : o.WellNamed) (hrecord : t.base.kind.isComposite = true → isDotted record = true)
    (ht : IsOutput t) : ∃ e leaf, o.outputExpression record t = .ok e ∧ o.outputName record t.base = .ok leaf ∧
      readTaggedType e.text = some (t.map fun _ => tagBase leaf) := by
  obtain ⟨leaf, hleaf, hdotted, hlayer⟩ := Options.exists_outputName ho ht.kind ht.name hrecord
  obtain ⟨e, he, hbase, hlayers⟩ := exists_tag hleaf hlayer
  exact ⟨e, leaf, he, hleaf, by rw [readTaggedType, readTag_text e (hbase ▸ hdotted), Option.bind_some, hlayers]⟩

theorem IsOutput.of_base (ht : IsOutput t) (hbase : t'.base = t.base) : IsOutput t' :=
  ⟨hbase ▸ ht.kind, hbase ▸ ht.name⟩

/-- Types over one named type with the same annotation are the same. -/
theorem eq_of_annotation (ho : o.WellNamed) (hinner : inner = "" ∨ isDotted inner = true) (ht : IsOutput t)
    (hbase : t'.base = t.base) {e e' : TypeExpression} (he : o.typeExpression inner t = .ok e)
    (he' : o.typeExpression inner t' = .ok e') (htext : e.text = e'.text) : t = t' := by
  obtain ⟨f, name, hf, hname, hread⟩ := exists_readType ho hinner ht
  obtain ⟨f', name', hf', hname', hread'⟩ := exists_readType ho hinner (ht.of_base hbase)
  obtain rfl : f = e := Except.ok.inj (hf.symm.trans he)
  obtain rfl : f' = e' := Except.ok.inj (hf'.symm.trans he')
  obtain rfl : name = name' := Except.ok.inj (hname.symm.trans (hbase ▸ hname'))
  rw [htext, hread'] at hread
  exact TypeRef.eq_of_map hbase.symm (Option.some.inj hread).symm

/-- Types over one named type with the same tag are the same. -/
theorem eq_of_tag (ho : o.WellNamed) (hrecord : t.base.kind.isComposite = true → isDotted record = true) (ht : IsOutput t)
    (hbase : t'.base = t.base) {e e' : OutputExpression} (he : o.outputExpression record t = .ok e)
    (he' : o.outputExpression record t' = .ok e') (htext : e.text = e'.text) : t = t' := by
  obtain ⟨f, leaf, hf, hleaf, hread⟩ := exists_readTaggedType ho hrecord ht
  obtain ⟨f', leaf', hf', hleaf', hread'⟩ := exists_readTaggedType ho (hbase ▸ hrecord) (ht.of_base hbase)
  obtain rfl : f = e := Except.ok.inj (hf.symm.trans he)
  obtain rfl : f' = e' := Except.ok.inj (hf'.symm.trans he')
  obtain rfl : leaf = leaf' := Except.ok.inj (hleaf.symm.trans (hbase ▸ hleaf'))
  rw [htext, hread'] at hread
  exact TypeRef.eq_of_map hbase.symm (Option.some.inj hread).symm

end

/-! ## What may be left out -/

/-- The beginning of an expression that is `None` where the value is. -/
def noneCheck (value : String) : String :=
  "None if " ++ value ++ " is None else "

theorem beginsWith_append (a b : String) : Text.beginsWith (a ++ b) a = true := by
  rw [Text.beginsWith, String.toList_append]
  exact List.isPrefixOf_iff_prefix.mpr (List.prefix_append _ _)

theorem not_beginsWith_of_head {s start : String} {c d : Char} (hs : s.toList.head? = some c)
    (hstart : start.toList.head? = some d) (hne : c ≠ d) : Text.beginsWith s start = false := by
  refine Bool.eq_false_iff.mpr fun hprefix => hne ?_
  obtain ⟨rest, hrest⟩ := List.isPrefixOf_iff_prefix.mp hprefix
  rw [← hrest, List.head?_append, hstart] at hs
  exact (Option.some.inj hs).symm

/-- The annotation of a type begins with the mark of a nullable layer exactly where the type is nullable. -/
theorem beginsWith_optional {o : Options} {inner name : String} {t : ResolvedType} {e : TypeExpression}
    (hname : o.typeName inner t.base = .ok name) (hbracket : '[' ∉ name.toList) (h : o.typeExpression inner t = .ok e) :
    Text.beginsWith e.text "Optional[" = !t.isRequired := by
  have hoptional : ∀ e : TypeExpression, Text.beginsWith (TypeExpression.optional e).text "Optional[" = true := fun e => by
    rw [TypeExpression.text, String.append_assoc]
    exact beginsWith_append _ _
  cases t with
  | named t required =>
    obtain ⟨name', hname', h⟩ := bind_eq_ok.mp h
    cases pure_eq_ok.mp h
    obtain rfl : name = name' := Except.ok.inj (hname.symm.trans hname')
    cases required with
    | false => exact hoptional _
    | true =>
      refine Bool.eq_false_iff.mpr fun hprefix => hbracket ?_
      exact (List.isPrefixOf_iff_prefix.mp hprefix).subset (by decide)
  | list item required =>
    obtain ⟨e', -, h⟩ := bind_eq_ok.mp h
    cases pure_eq_ok.mp h
    cases required with
    | false => exact hoptional _
    | true =>
      have hlist : (TypeExpression.list e').text.toList.head? = some 'L' := by simp [TypeExpression.text]
      exact not_beginsWith_of_head hlist (by rfl) (by decide)

/-- The expression that maps the elements of a value of a type begins with a check for `None` exactly where the type is nullable,
unless the transform does. -/
theorem beginsWith_noneCheck {α : Type} {F : Transform} {value : String} (depth : Nat) (t : TypeRef α)
    (hF : Text.beginsWith (F.fill value) (noneCheck value) = false) :
    Text.beginsWith ((ElementMap.ofType value depth t).text F) (noneCheck value) = !t.isRequired := by
  have hchecked : ∀ body, Text.beginsWith ((ElementMap.checked false value body).text F) (noneCheck value) = true := fun body =>
    beginsWith_append _ _
  cases t with
  | named a required =>
    cases required with
    | false => exact hchecked _
    | true => exact hF
  | list item required =>
    cases required with
    | false => exact hchecked _
    | true =>
      have hlist : ∀ body item, ((ElementMap.each body item value).text F).toList.head? = some '[' := fun body item => by
        simp [ElementMap.text]
      have hcheck : (noneCheck value).toList.head? = some 'N' := by simp [noneCheck]
      exact not_beginsWith_of_head (hlist _ _) hcheck (by decide)

/-- No bracket stands in the class of the record of a field. -/
theorem Field.bracket_notMem_recordName {f : Field} {scope className : String} (hkey : Language.isName f.responseKey = true)
    (hscope : scope = "" ∨ isDotted scope = true) (hclass : className = "" ∨ isDotted className = true) :
    '[' ∉ (f.recordName scope className).toList := by
  have hgiven : ∀ {s : String}, s = "" ∨ isDotted s = true → '[' ∉ s.toList := by
    rintro s (rfl | hs)
    · decide
    · exact bracket_notMem_of_isDotted hs
  have hkeyPlain : '[' ∉ f.responseKey.toList :=
    bracket_notMem_of_isDotted (isDotted_of_isIdentifier (isIdentifier_of_isName hkey).1)
  have hinner : '[' ∉ (if className == "" then Naming.recordClass f.responseKey else className).toList := by
    split
    · exact fun h => hkeyPlain (Naming.bracket_mem_of_recordClass h)
    · exact hgiven hclass
  rw [Field.recordName]
  generalize (if className == "" then Naming.recordClass f.responseKey else className) = inner at hinner
  rw [within]
  split
  · exact hinner
  · rw [String.toList_append, String.toList_append]
    simpa using ⟨hgiven hscope, hinner⟩

/-- What is optional is annotated as such, and is what is conditional or nullable. -/
theorem exists_optional {o : Options} (ho : o.WellNamed) {f : Field} {scope className : String} (taken : List String)
    (ht : IsOutput f.type) (hkey : Language.isName f.responseKey = true) (hscope : scope = "" ∨ isDotted scope = true)
    (hclass : className = "" ∨ isDotted className = true) :
    ∃ p t, o.fieldProperty f scope className taken = .ok p ∧ p.type = some t ∧ (!t.isRequired) = p.optional ∧
      (p.optional = true ↔ f.conditional = true ∨ f.type.isRequired = false) ∧
      Text.beginsWith p.hint.text "Optional[" = p.optional := by
  generalize htype : (if f.conditional then f.type.nullable else f.type) = type
  have hbase : type.base = f.type.base := by
    rw [← htype]
    split <;> simp
  have hrequired : type.isRequired = false ↔ f.conditional = true ∨ f.type.isRequired = false := by
    rw [← htype]
    cases f.conditional with
    | false => simp
    | true => cases f.type <;> simp [TypeRef.nullable, TypeRef.withRequired, TypeRef.isRequired]
  generalize hrecord : (if type.base.kind.isComposite then some (f.recordName scope className) else none) = record
  obtain ⟨name, hname, hcases⟩ := Options.exists_typeName o (record.getD "") (hbase ▸ ht.declared)
  have hbracket : '[' ∉ name.toList := by
    rcases hcases with ⟨rfl, hne⟩ | rfl | rfl
    · rw [← hrecord] at hne ⊢
      split at hne
      · rename_i hcomposite
        rw [if_pos hcomposite]
        exact Field.bracket_notMem_recordName hkey hscope hclass
      · exact absurd rfl hne
    · exact bracket_notMem_of_isDotted (Options.isDotted_scalar ho (hbase ▸ ht.name))
    · exact bracket_notMem_of_isDotted (Options.isDotted_qualify ho (hbase ▸ ht.name))
  obtain ⟨hint, hhint, -⟩ := exists_annotation hname
  have hproperty : ∃ p, o.fieldProperty f scope className taken = .ok p ∧ p.type = some type ∧ p.optional = (!type.isRequired) ∧
      p.hint = hint := by
    refine ⟨_, bind_eq_ok.mpr ⟨hint, ?_, rfl⟩, congrArg some htype, by rw [← htype], rfl⟩
    rw [← hrecord] at hhint
    rw [htype]
    exact hhint
  obtain ⟨p, hp, hptype, hoptional, rfl⟩ := hproperty
  refine ⟨p, type, hp, hptype, hoptional.symm, ?_, ?_⟩
  · rw [hoptional, Bool.not_eq_true']
    exact hrequired
  · rw [hoptional, beginsWith_optional hname hbracket hhint]

/-! ## One type in every text -/

/-- For options that were read, annotations and tags of types that fields can have are read back with all their layers, so
different types over one named type never share a text; and a field is optional, its annotation begins with the mark of a nullable
layer and the expression for its elements with a check for `None`, all exactly where it is conditional or nullable. -/
theorem type_texts_agree {members : Entries Json} {o : Options} (ho : Options.ofMembers members = .ok o) :
    (∀ inner t, inner = "" ∨ isDotted inner = true → IsOutput t →
      (∃ e name, o.typeExpression inner t = .ok e ∧ o.typeName inner t.base = .ok name ∧
        readType e.text = some (t.map fun _ => name)) ∧
      ∀ t' e e', t'.base = t.base → o.typeExpression inner t = .ok e → o.typeExpression inner t' = .ok e' → e.text = e'.text →
        t = t') ∧
    (∀ record t, (t.base.kind.isComposite = true → isDotted record = true) → IsOutput t →
      (∃ e leaf, o.outputExpression record t = .ok e ∧ o.outputName record t.base = .ok leaf ∧
        readTaggedType e.text = some (t.map fun _ => tagBase leaf)) ∧
      ∀ t' e e', t'.base = t.base → o.outputExpression record t = .ok e → o.outputExpression record t' = .ok e' →
        e.text = e'.text → t = t') ∧
    ∀ (f : Field) (scope className : String) (taken : List String), IsOutput f.type → Language.isName f.responseKey = true →
      scope = "" ∨ isDotted scope = true → className = "" ∨ isDotted className = true →
      ∃ p t, o.fieldProperty f scope className taken = .ok p ∧ p.type = some t ∧
        (p.optional = true ↔ f.conditional = true ∨ f.type.isRequired = false) ∧
        (p.optional = true ↔ Text.beginsWith p.hint.text "Optional[" = true) ∧
        ∀ (F : Transform) (value : String) (depth : Nat), Text.beginsWith (F.fill value) (noneCheck value) = false →
          (p.optional = true ↔ Text.beginsWith ((ElementMap.ofType value depth t).text F) (noneCheck value) = true) := by
  have hnamed := Options.WellNamed.of_ofMembers ho
  refine ⟨fun inner t hinner ht => ⟨exists_readType hnamed hinner ht, ?_⟩,
    fun record t hrecord ht => ⟨exists_readTaggedType hnamed hrecord ht, ?_⟩, ?_⟩
  · intro t' e e' hbase he he' htext
    exact eq_of_annotation hnamed hinner ht hbase he he' htext
  · intro t' e e' hbase he he' htext
    exact eq_of_tag hnamed hrecord ht hbase he he' htext
  · intro f scope className taken ht hkey hscope hclass
    obtain ⟨p, t, hp, htype, hrequired, hfield, hhint⟩ := exists_optional hnamed taken ht hkey hscope hclass
    refine ⟨p, t, hp, htype, hfield, by rw [hhint], fun F value depth hF => ?_⟩
    rw [beginsWith_noneCheck depth t hF, hrequired]

/-- Members of an object that wrap the module in a class and give scalars a beginning, both with the names of layers. -/
def wrappingMembers : Entries Json :=
  [("namespace", .string "Optional"), ("passthroughCustomScalars", .bool true), ("custom_scalars_prefix", .string "List")]

/-- The options that the members describe. -/
def wrappingOptions : Options :=
  { wrapper := some "Optional", passScalars := true, scalarsPrefix := "List" }

/-- Required lists of nullable lists of required values of an enum that has the name of a layer. -/
def nestedLists : ResolvedType :=
  .list (.list (.named ⟨"Optional", .enum⟩ true) false) true

/-- A field that a variable guards, with required lists of records. -/
def guardedField : Field :=
  { responseKey := "items", name := "items", type := .list (.named ⟨"Item", .object⟩ true) true, conditional := true }

theorem type_texts_agree_wrapping :
    Options.ofMembers wrappingMembers = .ok wrappingOptions ∧ IsOutput nestedLists ∧ IsOutput guardedField.type ∧
      (∃ e name, wrappingOptions.typeExpression "" nestedLists = .ok e ∧
        wrappingOptions.typeName "" nestedLists.base = .ok name ∧ readType e.text = some (nestedLists.map fun _ => name)) ∧
      (∃ e leaf, wrappingOptions.outputExpression "" nestedLists = .ok e ∧
        wrappingOptions.outputName "" nestedLists.base = .ok leaf ∧
        readTaggedType e.text = some (nestedLists.map fun _ => tagBase leaf)) ∧
      ∃ p t, wrappingOptions.fieldProperty guardedField "Optional.Query" "" [] = .ok p ∧ p.type = some t ∧
        (p.optional = true ↔ Text.beginsWith p.hint.text "Optional[" = true) ∧
        (p.optional = true ↔ Text.beginsWith ((ElementMap.ofType "value" 0 t).text .snapshot) (noneCheck "value") = true) := by
  have ho : Options.ofMembers wrappingMembers = .ok wrappingOptions := by decide +kernel
  have hlists : IsOutput nestedLists := ⟨rfl, by decide⟩
  have hfield : IsOutput guardedField.type := ⟨rfl, by decide⟩
  obtain ⟨htypes, htags, hfields⟩ := type_texts_agree ho
  obtain ⟨p, t, hp, htype, -, hhint, hmap⟩ :=
    hfields guardedField "Optional.Query" "" [] hfield (by decide) (Or.inr (by decide +kernel)) (Or.inl rfl)
  exact ⟨ho, hlists, hfield, (htypes "" nestedLists (Or.inl rfl) hlists).1, (htags "" nestedLists (fun h => nomatch h) hlists).1,
    p, t, hp, htype, hhint, hmap .snapshot "value" 0 (by decide)⟩

end TypedOperations

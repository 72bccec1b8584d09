import TypedOperations.Json.Basic
import TypedOperations.Number.Decimal

/-!
# Reading JSON

A reader of JSON texts that says where and why it stops. It also takes the words `NaN`, `Infinity` and `-Infinity`, and a
repeated member of an object keeps its first place and takes its last value.
-/

namespace TypedOperations.Json

/-- Why a text is not JSON. -/
inductive Fault where
  | byteOrderMark
  | expectingValue
  | expectingMemberName
  | expectingColon
  | expectingComma
  | extraData
  | unterminatedString
  | controlCharacter
  | badEscape
  | badUnicodeEscape
deriving DecidableEq, Repr

/-- What a fault is called in messages. -/
def Fault.text : Fault → String
  | .byteOrderMark => "Unexpected UTF-8 BOM (decode using utf-8-sig)"
  | .expectingValue => "Expecting value"
  | .expectingMemberName => "Expecting property name enclosed in double quotes"
  | .expectingColon => "Expecting ':' delimiter"
  | .expectingComma => "Expecting ',' delimiter"
  | .extraData => "Extra data"
  | .unterminatedString => "Unterminated string starting at"
  | .controlCharacter => "Invalid control character at"
  | .badEscape => "Invalid \\escape"
  | .badUnicodeEscape => "Invalid \\uXXXX escape"

/-- Why reading stopped: a fault with how many characters were left there, or an integer with too many digits. -/
inductive Stop where
  | fault (fault : Fault) (left : Nat)
  | tooManyDigits (digits : Nat)
deriving DecidableEq, Repr

/-- What a reading step gives: a value and the characters after it. -/
abbrev Step (α : Type) := Except Stop (α × List Char)

/-- The fault at the characters `rest`. -/
def faultAt {α : Type} (fault : Fault) (rest : List Char) : Step α :=
  .error (.fault fault rest.length)

/-- The characters after any white space. -/
def skipSpace (cs : List Char) : List Char :=
  cs.dropWhile fun c => c == ' ' || c == '\t' || c == '\n' || c == '\r'

/-- The value of a hexadecimal digit. -/
def hexValue? (c : Char) : Option Nat :=
  if c.isDigit then some (c.toNat - 48)
  else if 'a' ≤ c && c ≤ 'f' then some (c.toNat - 87)
  else if 'A' ≤ c && c ≤ 'F' then some (c.toNat - 55)
  else none

/-- The number four hexadecimal digits at the front spell. -/
def hexQuad? : List Char → Option (Nat × List Char)
  | a :: b :: c :: d :: rest => do
    let a ← hexValue? a
    let b ← hexValue? b
    let c ← hexValue? c
    let d ← hexValue? d
    return (((a * 16 + b) * 16 + c) * 16 + d, rest)
  | _ => none

/-- The number four hexadecimal digits at the front spell in a string, which goes on after them. -/
def innerHexQuad? (cs : List Char) : Option (Nat × List Char) :=
  (hexQuad? cs).filter fun r => !r.2.isEmpty

/-- The character an escape letter other than `u` stands for. -/
def escapeChar? (c : Char) : Option Char :=
  if c == '\x22' || c == '\x5c' || c == '/' then some c
  else if c == 'b' then some '\x08'
  else if c == 'f' then some '\x0c'
  else if c == 'n' then some '\n'
  else if c == 'r' then some '\r'
  else if c == 't' then some '\t'
  else none

/-- The character of a code unit that is not half of a pair; half a pair alone becomes the replacement character. -/
def loneUnit (n : Nat) : Char :=
  if 0xD800 ≤ n && n ≤ 0xDFFF then Char.ofNat 0xFFFD else Char.ofNat n

/-- The rest of a string whose characters so far are `acc`, newest first; `opening` is the text at its opening quote. -/
def readString (opening : List Char) (acc : List Char) : Nat → List Char → Step String
  | 0, _ => faultAt .unterminatedString opening
  | fuel + 1, cs =>
    match cs with
    | [] => faultAt .unterminatedString opening
    | c :: rest =>
      if c == '\x22' then .ok (String.ofList acc.reverse, rest)
      else if c == '\x5c' then
        match rest with
        | [] => faultAt .unterminatedString opening
        | e :: rest' =>
          if e == 'u' then
            match innerHexQuad? rest' with
            | none => faultAt .badUnicodeEscape rest
            | some (high, after) =>
              let low? := match after with
                | '\x5c' :: 'u' :: more => innerHexQuad? more
                | _ => none
              match low? with
              | some (low, more) =>
                if 0xD800 ≤ high && high ≤ 0xDBFF && 0xDC00 ≤ low && low ≤ 0xDFFF then
                  readString opening (Char.ofNat (0x10000 + (high - 0xD800) * 0x400 + (low - 0xDC00)) :: acc) fuel more
                else readString opening (loneUnit high :: acc) fuel after
              | none => readString opening (loneUnit high :: acc) fuel after
          else
            match escapeChar? e with
            | some x => readString opening (x :: acc) fuel rest'
            | none => faultAt .badEscape cs
      else if c.toNat < 32 then faultAt .controlCharacter cs
      else readString opening (c :: acc) fuel rest

/-- The fraction of a numeral, if a point and a digit follow. -/
def spanFraction : List Char → List Char × List Char
  | '.' :: rest =>
    match Decimal.spanDigits rest with
    | ([], _) => ([], '.' :: rest)
    | (ds, rest) => ('.' :: ds, rest)
  | cs => ([], cs)

/-- The exponent of a numeral, if an `e`, an optional sign and a digit follow. -/
def spanExponent (cs : List Char) : List Char × List Char :=
  match cs with
  | [] => ([], [])
  | e :: rest =>
    if e == 'e' || e == 'E' then
      let (sign, digits) := match rest with
        | '-' :: more => (['-'], more)
        | '+' :: more => (['+'], more)
        | more => ([], more)
      match Decimal.spanDigits digits with
      | ([], _) => ([], cs)
      | (ds, rest) => (e :: sign ++ ds, rest)
    else ([], cs)

/-- A number; `opening` is the text at its first character. -/
def readNumber (opening : List Char) : Step Json :=
  let (negative, cs) := match opening with
    | '-' :: rest => (true, rest)
    | rest => (false, rest)
  let (whole, rest) := match cs with
    | '0' :: rest => (['0'], rest)
    | rest => Decimal.spanDigits rest
  if whole.isEmpty then faultAt .expectingValue opening
  else
    let (fraction, rest) := spanFraction rest
    let (exponent, rest) := spanExponent rest
    if fraction.isEmpty && exponent.isEmpty then
      if Decimal.maxDigits < whole.length then .error (.tooManyDigits whole.length)
      else
        let n := Decimal.natOfDigits whole
        .ok (.int (if negative then -(n : Int) else (n : Int)), rest)
    else
      match Decimal.unsignedOfChars negative (whole ++ fraction ++ exponent) with
      | some x => .ok (.float x, rest)
      | none => faultAt .expectingValue opening

/-- The text after a word it starts with. -/
def afterWord? (word : String) (cs : List Char) : Option (List Char) :=
  let w := word.toList
  if w.isPrefixOf cs then some (cs.drop w.length) else none

/-- A word that is a value, or a number. -/
def readWord (cs : List Char) : Step Json :=
  match afterWord? "null" cs with
  | some rest => .ok (.null, rest)
  | none =>
  match afterWord? "true" cs with
  | some rest => .ok (.bool true, rest)
  | none =>
  match afterWord? "false" cs with
  | some rest => .ok (.bool false, rest)
  | none =>
  match afterWord? "NaN" cs with
  | some rest => .ok (.float .nan, rest)
  | none =>
  match afterWord? "Infinity" cs with
  | some rest => .ok (.float (.infinite false), rest)
  | none =>
  match afterWord? "-Infinity" cs with
  | some rest => .ok (.float (.infinite true), rest)
  | none => readNumber cs

mutual

/-- One value at the front of the text. -/
def readValue : Nat → List Char → Except Stop (Json × List Char)
  | 0, cs => faultAt .expectingValue cs
  | fuel + 1, cs =>
    match cs with
    | [] => faultAt .expectingValue []
    | c :: rest =>
      if c == '\x22' then do
        let (s, rest) ← readString cs [] rest.length.succ rest
        return (.string s, rest)
      else if c == '\x7b' then
        match skipSpace rest with
        | '\x7d' :: rest => .ok (.object [], rest)
        | rest => readMembers fuel [] rest
      else if c == '[' then
        match skipSpace rest with
        | ']' :: rest => .ok (.array [], rest)
        | rest => readItems fuel [] rest
      else readWord cs

/-- The members of an object from the next name on; `acc` holds those before. -/
def readMembers : Nat → Entries Json → List Char → Except Stop (Json × List Char)
  | 0, _, cs => faultAt .expectingMemberName cs
  | fuel + 1, acc, cs =>
    match cs with
    | [] => faultAt .expectingMemberName []
    | c :: rest =>
      if c == '\x22' then do
        let (name, rest) ← readString cs [] rest.length.succ rest
        match skipSpace rest with
        | ':' :: rest =>
          let (value, rest) ← readValue fuel (skipSpace rest)
          let acc := acc.put name value
          match skipSpace rest with
          | '\x7d' :: rest => return (.object acc, rest)
          | ',' :: rest => readMembers fuel acc (skipSpace rest)
          | rest => faultAt .expectingComma rest
        | rest => faultAt .expectingColon rest
      else faultAt .expectingMemberName cs

/-- The items of an array from the next one on; `acc` holds those before, newest first. -/
def readItems : Nat → List Json → List Char → Except Stop (Json × List Char)
  | 0, _, cs => faultAt .expectingValue cs
  | fuel + 1, acc, cs => do
    let (value, rest) ← readValue fuel cs
    let acc := value :: acc
    match skipSpace rest with
    | ']' :: rest => return (.array acc.reverse, rest)
    | ',' :: rest => readItems fuel acc (skipSpace rest)
    | rest => faultAt .expectingComma rest

end

/-- Why a text was refused, with the place as a number of characters from its start. -/
inductive ReadError where
  | fault (fault : Fault) (line column position : Nat)
  | tooManyDigits (digits : Nat)
deriving DecidableEq, Repr

/-- The place in a text before which `left` characters remain: line and column from one, and the position from zero. -/
def placeOf (cs : List Char) (left : Nat) : Nat × Nat × Nat :=
  let position := cs.length - left
  let before := cs.take position
  let line := before.count '\n' + 1
  let column := (before.reverse.takeWhile (· != '\n')).length + 1
  (line, column, position)

/-- Where and why reading a text stopped. -/
def Stop.locate (cs : List Char) : Stop → ReadError
  | .fault cause left =>
    let (line, column, position) := placeOf cs left
    .fault cause line column position
  | .tooManyDigits digits => .tooManyDigits digits

/-- The message of a refusal. -/
def ReadError.message : ReadError → String
  | .fault cause line column position =>
    cause.text ++ ": line " ++ toString line ++ " column " ++ toString column ++ " (char " ++ toString position ++ ")"
  | .tooManyDigits digits =>
    "Exceeds the limit (4300 digits) for integer string conversion: value has " ++ toString digits ++
      " digits; use sys.set_int_max_str_digits() to increase the limit"

/-- The value a text holds, with white space around it and nothing else. -/
def read (s : String) : Except ReadError Json :=
  let cs := s.toList
  if cs.head? == some (Char.ofNat 0xFEFF) then .error (.fault .byteOrderMark 1 1 0)
  else
    match readValue (cs.length + 1) (skipSpace cs) with
    | .error stop => .error (stop.locate cs)
    | .ok (value, rest) =>
      match skipSpace rest with
      | [] => .ok value
      | rest => .error ((Stop.fault .extraData rest.length).locate cs)

end TypedOperations.Json

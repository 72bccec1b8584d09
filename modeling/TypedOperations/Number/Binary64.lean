/-!
# Double precision numbers

A double precision number as its sign and the integers of `m · 2^q`, so that all arithmetic on it is exact integer
arithmetic. Decimals are read to the nearest number, ties to the even mantissa; a number is written with the fewest
digits that read back as it, and of those the nearest.
-/

namespace TypedOperations

/-- A double precision number; a finite one is `mantissa · 2^exponent` with its sign. -/
inductive Binary64 where
  | finite (negative : Bool) (mantissa : Nat) (exponent : Int)
  | infinite (negative : Bool)
  | nan
deriving DecidableEq, Repr, Inhabited

namespace Binary64

/-- The quotient rounded to the nearest integer, a tie to the even one. -/
def roundDiv (num den : Nat) : Nat :=
  let q := num / den
  let twice := 2 * (num % den)
  if twice < den then q else if den < twice then q + 1 else if q % 2 == 0 then q else q + 1

/-- Numerator and denominator of `n · base^e`. -/
def scale (n base : Nat) (e : Int) : Nat × Nat :=
  if 0 ≤ e then (n * base.pow e.toNat, 1) else (n, base.pow (-e).toNat)

/-- The largest `e` with `2^e ≤ num / den`, for a positive quotient. -/
def floorLog2 (num den : Nat) : Int :=
  let guess : Int := (num.log2 : Int) - den.log2
  let (p, q) := scale den 2 guess
  if p ≤ num * q then guess else guess - 1

/-- The smallest mantissa of 53 bits. -/
def leastFull : Nat := Nat.pow 2 52

/-- A zero; like the numbers next to it, it has the least exponent. -/
def zero (negative : Bool) : Binary64 := .finite negative 0 (-1074)

/-- The number nearest to `num / den`. -/
def ofRatio (negative : Bool) (num den : Nat) : Binary64 :=
  if num == 0 then zero negative
  else
    let q := max (floorLog2 num den - 52) (-1074)
    let (d, n) := scale den 2 q
    let m := roundDiv (num * n) d
    let (m, q) := if m == 2 * leastFull then (leastFull, q + 1) else (m, q)
    if 971 < q then .infinite negative else .finite negative m q

/-- The number nearest to `digits · 10^e`; exponents far outside the range are decided without powers. -/
def ofDecimal (negative : Bool) (digits : Nat) (e : Int) : Binary64 :=
  let size : Int := (Nat.toDigits 10 digits).length + e
  if digits == 0 then zero negative
  else if 400 < size then .infinite negative
  else if size < -400 then zero negative
  else
    let (num, den) := scale digits 10 e
    ofRatio negative num den

/-- The number is the integer `i`. -/
def eqInt (x : Binary64) (i : Int) : Bool :=
  match x with
  | .finite negative m q =>
    let (num, den) := scale m 2 q
    (if negative then -(num : Int) else (num : Int)) == i * den
  | _ => false

/-- The integer that the number is, if it is one. -/
def toInt? : Binary64 → Option Int
  | .finite negative m q =>
    let (num, den) := scale m 2 q
    if num % den == 0 then some (if negative then -((num / den : Nat) : Int) else ((num / den : Nat) : Int)) else none
  | _ => none

/-- Equality of values: the two zeros are equal, and a number that is none differs from everything. -/
def eqValue : Binary64 → Binary64 → Bool
  | .finite n₁ m₁ q₁, .finite n₂ m₂ q₂ => (m₁ == 0 && m₂ == 0) || (n₁ == n₂ && m₁ == m₂ && q₁ == q₂)
  | .infinite n₁, .infinite n₂ => n₁ == n₂
  | _, _ => false

/-- The decimal `d · 10^e` reads back as `m · 2^q`: it lies between the midpoints to the neighbours, the midpoints
counted where the mantissa is even. The lower gap is half as wide at a power of two. -/
def readsBack (m : Nat) (q : Int) (d : Nat) (e : Int) : Bool :=
  let narrow := m == leastFull && -1074 < q
  -- four times the value, the bounds and the decimal over one denominator
  let (dn, dd) := scale (4 * d) 10 e
  let bound (k : Nat) : Nat × Nat := scale k 2 q
  let (ln, ld) := bound (if narrow then 4 * m - 1 else 4 * m - 2)
  let (un, ud) := bound (4 * m + 2)
  let low := ln * dd
  let high := un * dd
  if m % 2 == 0 then low ≤ dn * ld && dn * ud ≤ high else low < dn * ld && dn * ud < high

/-- On the grid of step `10^e`, the neighbour of `m · 2^q` that reads back and is nearest, the even one in a tie. -/
def onGrid (m : Nat) (q e : Int) : Option Nat :=
  let (vn, vd) := scale m 2 q
  let (gn, gd) := scale 1 10 e
  let num := vn * gd
  let den := vd * gn
  let below := num / den
  let nearest := roundDiv num den
  let other := if nearest == below then below + 1 else below
  if readsBack m q nearest e then some nearest
  else if readsBack m q other e then some other
  else none

/-- The exponent of the first decimal digit of `m · 2^q`, for a positive `m`, from the bound `bound` downwards. -/
def firstDigit (m : Nat) (q : Int) : Nat → Int → Int
  | 0, e => e
  | fuel + 1, e =>
    let (vn, vd) := scale m 2 q
    let (gn, gd) := scale 1 10 e
    if gn * vd ≤ vn * gd then e else firstDigit m q fuel (e - 1)

/-- The first grid, from the coarsest to the finest tried, with a decimal that reads back. -/
def shortestFrom (m : Nat) (q : Int) : Nat → Int → Nat × Int
  | 0, e => ((onGrid m q e).getD 0, e)
  | fuel + 1, e =>
    match onGrid m q e with
    | some d => (d, e)
    | none => shortestFrom m q fuel (e - 1)

/-- Digits and exponent of a decimal without its trailing zeros. -/
def dropZeros : Nat → Nat → Int → Nat × Int
  | 0, d, e => (d, e)
  | fuel + 1, d, e => if d % 10 == 0 && d != 0 then dropZeros fuel (d / 10) (e + 1) else (d, e)

/-- The shortest decimal `d · 10^e` that reads back as `m · 2^q`, for a positive `m`. -/
def shortest (m : Nat) (q : Int) : Nat × Int :=
  let top : Int := ((m.log2 : Int) + q) * 30103 / 100000 + 2
  let first := firstDigit m q 8 top
  let (d, e) := shortestFrom m q 18 (first + 1)
  dropZeros 20 d e

/-- The digits of a natural number. -/
def digits (n : Nat) : List Char :=
  Nat.toDigits 10 n

/-- A decimal written out: positional while the exponent of its first digit is from -4 to 15, with at least one digit
on each side of the point; otherwise with an exponent of at least two digits. -/
def writeDecimal (d : Nat) (e : Int) : List Char :=
  let ds := digits d
  let point : Int := ds.length + e
  if -4 < point && point ≤ 16 then
    if point ≤ 0 then "0.".toList ++ List.replicate (-point).toNat '0' ++ ds
    else if (ds.length : Int) ≤ point then ds ++ List.replicate (point - ds.length).toNat '0' ++ ".0".toList
    else ds.take point.toNat ++ '.' :: ds.drop point.toNat
  else
    let x := point - 1
    let xs := digits x.natAbs
    let xs := if xs.length < 2 then '0' :: xs else xs
    let head := match ds with
      | [] => []
      | [c] => [c]
      | c :: rest => c :: '.' :: rest
    head ++ 'e' :: (if x < 0 then '-' else '+') :: xs

/-- The text of a number: `inf`, `nan`, or its shortest decimal. -/
def text : Binary64 → String
  | .nan => "nan"
  | .infinite negative => if negative then "-inf" else "inf"
  | .finite negative m q =>
    let body := if m == 0 then "0.0".toList else
      let (d, e) := shortest m q
      writeDecimal d e
    String.ofList (if negative then '-' :: body else body)

end Binary64

end TypedOperations

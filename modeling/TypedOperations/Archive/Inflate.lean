/-!
# Inflating compressed bytes

Compressed data is a sequence of blocks of bits: bytes as they are, or symbols of a prefix code that stand for bytes and for
copies of what came before. Bits are read from the low end of every byte.
-/

namespace TypedOperations.Archive

/-- The bits of a byte, lowest first. -/
def bitsOfByte (b : UInt8) : List Bool :=
  (List.range 8).map fun i => (b.toNat >>> i) % 2 == 1

/-- The bits of bytes. -/
def bitsOf (bytes : List UInt8) : List Bool :=
  bytes.flatMap bitsOfByte

/-- A number of `n` bits, lowest first, and the bits after it. -/
def readBits : Nat → List Bool → Option (Nat × List Bool)
  | 0, bits => some (0, bits)
  | _ + 1, [] => none
  | n + 1, b :: rest => do
    let (high, rest) ← readBits n rest
    return (b.toNat + 2 * high, rest)

/-! ## Prefix codes -/

/-- A prefix code as a tree: a bit chooses a branch, a leaf is a symbol. -/
inductive Code where
  | none
  | symbol (n : Nat)
  | branch (zero one : Code)
deriving Inhabited

namespace Code

/-- The code with a symbol at the end of some bits. -/
def insert (c : Code) (n : Nat) : List Bool → Code
  | [] => .symbol n
  | b :: rest =>
    let (zero, one) := match c with
      | .branch zero one => (zero, one)
      | _ => (.none, .none)
    if b then .branch zero (one.insert n rest) else .branch (zero.insert n rest) one

/-- The `width` bits of a number, highest first. -/
def highBits (width n : Nat) : List Bool :=
  ((List.range width).map fun i => (n >>> i) % 2 == 1).reverse

/-- The code in which symbols with shorter codes come first and, among those of one length, smaller symbols do. -/
def ofLengths (lengths : List Nat) : Code :=
  let used := (lengths.zipIdx.filter fun p => p.1 != 0).mergeSort fun a b => a.1 ≤ b.1
  (used.foldl (fun (state : Code × Nat × Nat) p =>
    let (c, next, width) := state
    let next := next <<< (p.1 - width)
    (c.insert p.2 (highBits p.1 next), next + 1, p.1)) (.none, 0, 0)).1

/-- The symbol that bits start with, and the bits after it. -/
def decode : Code → List Bool → Option (Nat × List Bool)
  | .symbol n, bits => some (n, bits)
  | .branch zero one, b :: rest => if b then one.decode rest else zero.decode rest
  | _, _ => Option.none

end Code

/-- The lengths of the literal code that needs no description. -/
def fixedLengths : List Nat :=
  List.replicate 144 8 ++ List.replicate 112 9 ++ List.replicate 24 7 ++ List.replicate 8 8

/-- The shortest copy of each length symbol with the number of bits that follow it. -/
def lengthBases : List (Nat × Nat) :=
  [(3, 0), (4, 0), (5, 0), (6, 0), (7, 0), (8, 0), (9, 0), (10, 0), (11, 1), (13, 1), (15, 1), (17, 1), (19, 2), (23, 2),
   (27, 2), (31, 2), (35, 3), (43, 3), (51, 3), (59, 3), (67, 4), (83, 4), (99, 4), (115, 4), (131, 5), (163, 5), (195, 5),
   (227, 5), (258, 0)]

/-- The shortest distance of each distance symbol with the number of bits that follow it. -/
def distanceBases : List (Nat × Nat) :=
  [(1, 0), (2, 0), (3, 0), (4, 0), (5, 1), (7, 1), (9, 2), (13, 2), (17, 3), (25, 3), (33, 4), (49, 4), (65, 5), (97, 5),
   (129, 6), (193, 6), (257, 7), (385, 7), (513, 8), (769, 8), (1025, 9), (1537, 9), (2049, 10), (3073, 10), (4097, 11),
   (6145, 11), (8193, 12), (12289, 12), (16385, 13), (24577, 13)]

/-- The order in which the lengths of the code for lengths are given. -/
def lengthOrder : List Nat := [16, 17, 18, 0, 8, 7, 9, 6, 10, 5, 11, 4, 12, 3, 13, 2, 14, 1, 15]

/-- A number that a symbol and the bits after it stand for. -/
def readBased (bases : List (Nat × Nat)) (symbol : Nat) (bits : List Bool) : Option (Nat × List Bool) := do
  let (base, extra) ← bases[symbol]?
  let (more, bits) ← readBits extra bits
  return (base + more, bits)

/-- The bytes with `n` more, each a copy of the one `distance` before it. -/
def copy (distance : Nat) : Nat → Array UInt8 → Option (Array UInt8)
  | 0, out => some out
  | n + 1, out =>
    if distance == 0 || out.size < distance then none
    else copy distance n (out.push (out.getD (out.size - distance) 0))

/-- The bytes after the symbols of a block; `fuel` bounds their number. -/
def symbols (literals distances : Code) : Nat → List Bool → Array UInt8 → Option (List Bool × Array UInt8)
  | 0, _, _ => none
  | fuel + 1, bits, out => do
    let (n, bits) ← literals.decode bits
    if n < 256 then symbols literals distances fuel bits (out.push n.toUInt8)
    else if n == 256 then return (bits, out)
    else
      let (length, bits) ← readBased lengthBases (n - 257) bits
      let (d, bits) ← distances.decode bits
      let (distance, bits) ← readBased distanceBases d bits
      symbols literals distances fuel bits (← copy distance length out)

/-- `count` code lengths, after those in `found`, newest first; `fuel` bounds their number. -/
def codeLengths (c : Code) (count : Nat) : Nat → List Nat → List Bool → Option (List Nat × List Bool)
  | 0, _, _ => none
  | fuel + 1, found, bits =>
    if count ≤ found.length then some (found.reverse, bits)
    else do
      let (n, bits) ← c.decode bits
      if n < 16 then codeLengths c count fuel (n :: found) bits
      else if n == 16 then
        let (more, bits) ← readBits 2 bits
        codeLengths c count fuel (List.replicate (3 + more) (found.headD 0) ++ found) bits
      else
        let (more, bits) ← readBits (if n == 17 then 3 else 7) bits
        codeLengths c count fuel (List.replicate ((if n == 17 then 3 else 11) + more) 0 ++ found) bits

/-- Numbers of three bits. -/
def readTriples : Nat → List Bool → Option (List Nat × List Bool)
  | 0, bits => some ([], bits)
  | n + 1, bits => do
    let (x, bits) ← readBits 3 bits
    let (xs, bits) ← readTriples n bits
    return (x :: xs, bits)

/-- The codes that a block describes, and the bits after the description. -/
def readCodes (bits : List Bool) : Option (Code × Code × List Bool) := do
  let (literals, bits) ← readBits 5 bits
  let (distances, bits) ← readBits 5 bits
  let (lengths, bits) ← readBits 4 bits
  let (triples, bits) ← readTriples (lengths + 4) bits
  let given := lengthOrder.zip triples
  let c := Code.ofLengths ((List.range 19).map fun i => (given.lookup i).getD 0)
  let count := literals + 257 + (distances + 1)
  let (all, bits) ← codeLengths c count (count + 1) [] bits
  return (.ofLengths (all.take (literals + 257)), .ofLengths (all.drop (literals + 257)), bits)

/-- Bytes as they are, of which the first bits give the number. -/
def stored (bits : List Bool) (out : Array UInt8) : Option (List Bool × Array UInt8) := do
  let bits := bits.drop (bits.length % 8)
  let (length, bits) ← readBits 16 bits
  let (_, bits) ← readBits 16 bits
  copyIn length bits out
where
  /-- The bytes with `n` more from the bits. -/
  copyIn : Nat → List Bool → Array UInt8 → Option (List Bool × Array UInt8)
    | 0, bits, out => some (bits, out)
    | n + 1, bits, out => do
      let (b, bits) ← readBits 8 bits
      copyIn n bits (out.push b.toUInt8)

/-- The bytes after all blocks; `fuel` bounds their number. -/
def blocks : Nat → List Bool → Array UInt8 → Option (Array UInt8)
  | 0, _, _ => none
  | fuel + 1, bits, out => do
    let (last, bits) ← readBits 1 bits
    let (kind, bits) ← readBits 2 bits
    let (bits, out) ← match kind with
      | 0 => stored bits out
      | 1 => symbols (.ofLengths fixedLengths) (.ofLengths (List.replicate 30 5)) (bits.length + 1) bits out
      | 2 => do
        let (literals, distances, bits) ← readCodes bits
        symbols literals distances (bits.length + 1) bits out
      | _ => none
    if last == 1 then return out else blocks fuel bits out

/-- The bytes that compressed bytes stand for. -/
def inflate (bytes : List UInt8) : Option (List UInt8) :=
  let bits := bitsOf bytes
  (blocks (bits.length + 1) bits #[]).map (·.toList)

end TypedOperations.Archive

import TypedOperations.Archive.Inflate
import TypedOperations.Entries

/-!
# Archives

The files in a zip archive, which ends with a directory of its entries, and in a compressed tape archive, which is a
sequence of headers, each followed by the blocks of its file.
-/

namespace TypedOperations.Archive

/-- A part of bytes. -/
def slice (bytes : List UInt8) (start length : Nat) : List UInt8 :=
  (bytes.drop start).take length

/-- A number, lowest byte first. -/
def littleEndian : List UInt8 → Nat
  | [] => 0
  | b :: rest => b.toNat + 256 * littleEndian rest

/-- The number of `width` bytes at a place. -/
def number (bytes : List UInt8) (start width : Nat) : Nat :=
  littleEndian (slice bytes start width)

/-- Bytes as text. -/
def textOf? (bytes : List UInt8) : Option String :=
  String.fromUTF8? ⟨bytes.toArray⟩

/-! ## Zip archives -/

/-- The bytes of an entry of a zip archive, given where its header starts. -/
def zipData (bytes : List UInt8) (header method size : Nat) : Option (List UInt8) :=
  let start := header + 30 + number bytes (header + 26) 2 + number bytes (header + 28) 2
  let data := slice bytes start size
  if method == 0 then some data else if method == 8 then inflate data else none

/-- The files of `count` entries of the directory that starts at a place; entries for directories are passed over. -/
def zipEntries (bytes : List UInt8) : Nat → Nat → Option (Entries String)
  | 0, _ => some []
  | count + 1, place =>
    if number bytes place 4 != 0x02014b50 then none
    else do
      let nameLength := number bytes (place + 28) 2
      let name ← textOf? (slice bytes (place + 46) nameLength)
      let next := place + 46 + nameLength + number bytes (place + 30) 2 + number bytes (place + 32) 2
      let rest ← zipEntries bytes count next
      if name.toList.getLast? == some '/' then return rest
      else
        let data ← zipData bytes (number bytes (place + 42) 4) (number bytes (place + 10) 2) (number bytes (place + 20) 4)
        return (name, ← textOf? data) :: rest

/-- The place of the record that ends a zip archive, looked for from `place` downwards. -/
def zipEnd? (bytes : List UInt8) : Nat → Option Nat
  | 0 => if number bytes 0 4 == 0x06054b50 then some 0 else none
  | place + 1 => if number bytes (place + 1) 4 == 0x06054b50 then some (place + 1) else zipEnd? bytes place

/-- The files in a zip archive. -/
def unzip (bytes : List UInt8) : Option (Entries String) :=
  if bytes.length < 22 then none
  else do
    let place ← zipEnd? bytes (bytes.length - 22)
    zipEntries bytes (number bytes (place + 10) 2) (number bytes (place + 16) 4)

/-! ## Compressed tape archives -/

/-- The bytes after a text that ends with a zero. -/
def afterZero (bytes : List UInt8) : List UInt8 :=
  (bytes.dropWhile (· != 0)).drop 1

/-- The compressed bytes after the header of a compressed file. -/
def gzipBody? (bytes : List UInt8) : Option (List UInt8) :=
  match bytes with
  | 0x1f :: 0x8b :: 8 :: flags :: rest =>
    let flag (n : Nat) : Bool := (flags.toNat >>> n) % 2 == 1
    let body := rest.drop 6
    let body := if flag 2 then body.drop (2 + number body 0 2) else body
    let body := if flag 3 then afterZero body else body
    let body := if flag 4 then afterZero body else body
    some (if flag 1 then body.drop 2 else body)
  | _ => none

/-- A text that a zero or the end of its field ends. -/
def fieldText (bytes : List UInt8) (start length : Nat) : Option String :=
  textOf? ((slice bytes start length).takeWhile (· != 0))

/-- A number in octal digits. -/
def octal (bytes : List UInt8) : Nat :=
  bytes.foldl (fun n b => if 48 ≤ b.toNat && b.toNat < 56 then n * 8 + (b.toNat - 48) else n) 0

/-- The name that a header gives its file. -/
def tarName (header : List UInt8) : Option String := do
  let name ← fieldText header 0 100
  let folder ← if slice header 257 5 == [117, 115, 116, 97, 114] then fieldText header 345 155 else some ""
  return if folder == "" then name else folder ++ "/" ++ name

/-- The name that an extended header gives the file after it, in lines of the form `length key=value`. -/
def extendedName? (text : String) : Option String :=
  (text.splitOn "\n").findSome? fun line =>
    match (line.splitOn " ").drop 1 with
    | [] => none
    | words =>
      let record := String.intercalate " " words
      if "path=".toList.isPrefixOf record.toList then some (String.ofList (record.toList.drop 5)) else none

/-- The files of a tape archive; `named` is the name given to the next one by an extended header, and `fuel` bounds the
number of headers. -/
def untar : Nat → Option String → List UInt8 → Option (Entries String)
  | 0, _, _ => none
  | fuel + 1, named, bytes =>
    let header := bytes.take 512
    if header.length < 512 || header.all (· == 0) then some []
    else do
      let size := octal (slice header 124 12)
      let data := slice bytes 512 size
      let rest := bytes.drop (512 + (size + 511) / 512 * 512)
      let kind := number header 156 1
      if kind == 120 then untar fuel (extendedName? (← textOf? data)) rest
      else if kind == 76 then untar fuel (textOf? (data.takeWhile (· != 0))) rest
      else if kind == 0 || kind == 48 then
        let name ← match named with
          | some name => some name
          | none => tarName header
        let text ← textOf? data
        return (name, text) :: (← untar fuel none rest)
      else untar fuel none rest

/-- The files in a compressed tape archive. -/
def untarGzipped (bytes : List UInt8) : Option (Entries String) := do
  let inflated ← inflate (← gzipBody? bytes)
  if inflated.length < 512 then none else untar (inflated.length / 512 + 1) none inflated

end TypedOperations.Archive

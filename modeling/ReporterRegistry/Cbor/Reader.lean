import ReporterRegistry.Cbor.Skip

/-!
# Reading values of known shapes

How numbers, octets, names and records are read from octets. Tags in front of an
item are passed over, except where a number is expected and the tag marks a big
one.

A record is a map that has each of its fields exactly once, in any order. Keys are
definite strings, of text or of octets. Items of other keys are passed over.

A name is a definite text. It may also be the key of a map that announces one
entry: a name has no value to go with it, so the map ends behind the key.
-/

namespace ReporterRegistry

namespace Cbor

/-- A reader of values, given how many levels an item may nest. It gives the value
and the octets after it. -/
abbrev Reader : Type := Nat → Bytes → Option (Cbor × Bytes)

/-- How deep an item may nest. -/
def maxDepth : Nat := 256

/-- The longest string that is taken for a key or a name. -/
def maxKeyLength : Nat := 4096

/-- The first head that is not a tag, or is one of the tags that matter. There is one
step at most for every octet of `steps`. -/
def headBehindTags? (kept : List Nat) : Bytes → Bytes → Option (Head × Bytes)
  | [], _ => none
  | _ :: steps, bs => do
    let (head, rest) ← Head.read? bs
    match head with
    | .tag number =>
      if number ∈ kept then return (head, rest) else headBehindTags? kept steps rest
    | _ => return (head, rest)

/-- The head of an item behind its tags, except for tags that matter. -/
def untagged? (kept : List Nat) (bs : Bytes) : Option (Head × Bytes) :=
  headBehindTags? kept bs bs

/-! ### Numbers and octets -/

/-- The number of a byte string of at most 16 octets, leading zeros aside. -/
def bigNatural? (bs : Bytes) : Option (Nat × Bytes) := do
  let (head, rest) ← Head.read? bs
  let (chunks, rest) ← content? Head.bytesLength? (← head.bytesLength?) rest
  let digits := chunks.flatten.dropWhile (· = 0)
  if digits.length ≤ 16 then return (Bytes.toNat digits, rest) else none

/-- A natural number. -/
def natural? (bs : Bytes) : Option (Nat × Bytes) := do
  let (head, rest) ← untagged? [bigTag, bigNegativeTag] bs
  match head with
  | .unsigned n => return (n, rest)
  | .tag number => if number = bigTag then bigNatural? rest else none
  | _ => none

/-- A natural number below a bound. -/
def natBelow? (bound : Nat) (bs : Bytes) : Option (Nat × Bytes) := do
  let (n, rest) ← natural? bs
  if n < bound then return (n, rest) else none

/-- A number of one octet. -/
def octet? (bs : Bytes) : Option (UInt8 × Bytes) :=
  (natBelow? 256 bs).map fun (n, rest) => (UInt8.ofNat n, rest)

namespace Reader

/-- A natural number of so many bits. -/
def word (w : Nat) : Reader := fun _ bs =>
  (natBelow? (1 <<< w) bs).map fun (n, rest) => (.natural n, rest)

/-- Octets, as an array of numbers or as a byte string. -/
def octets : Reader := fun depth bs => do
  let (head, rest) ← untagged? [] bs
  match head with
  | .array count =>
    if depth = 0 then none
    else (run? octet? count rest).map fun (content, rest) => (.octets content, rest)
  | .bytes length =>
    (content? Head.bytesLength? length rest).map
      fun (chunks, rest) => (.octets chunks.flatten, rest)
  | _ => none

/-! ### Names and records -/

/-- The octets of a key. -/
def key? (bs : Bytes) : Option (Bytes × Bytes) := do
  let (head, rest) ← untagged? [] bs
  match head with
  | .text (some length) =>
    if maxKeyLength < length then none
    else
      let (content, rest) ← split? length rest
      if (toText? content).isSome then return (content, rest) else none
  | .bytes (some length) => if maxKeyLength < length then none else split? length rest
  | _ => none

/-- The octets of a name. -/
def nameOctets? (bs : Bytes) : Option (Bytes × Bytes) := do
  let (head, rest) ← untagged? [] bs
  match head with
  | .text (some length) => if maxKeyLength < length then none else split? length rest
  | .map (some 1) => key? rest
  | _ => none

/-- A name. -/
def name : Reader := fun _ bs => do
  let (content, rest) ← nameOctets? bs
  return (.text (← toText? content), rest)

/-- A member of a map: a field with its value, or nothing if the key is no field. -/
def member? (fields : List (String × Reader)) (depth : Nat) (bs : Bytes) :
    Option (Option (String × Cbor) × Bytes) := do
  let (key, rest) ← key? bs
  match fields.find? fun field => Utf8.encode field.1.toList = key with
  | some (name, read) =>
    let (value, rest) ← read depth rest
    return (some (name, value), rest)
  | none =>
    let (_, rest) ← skip? depth rest
    return (none, rest)

/-- The value of the only member with a name. -/
def only? (members : List (String × Cbor)) (name : String) : Option Cbor :=
  match members.filter fun field => field.1 = name with
  | [field] => some field.2
  | _ => none

/-- A record of fields that are read in their own ways. The value has the fields in
the given order. -/
def record (fields : List (String × Reader)) : Reader
  | 0, _ => none
  | depth + 1, bs => do
    let (head, rest) ← untagged? [] bs
    match head with
    | .map count =>
      let (members, rest) ← run? (member? fields depth) count rest
      let found := members.filterMap id
      let values ← fields.mapM fun field => (only? found field.1).map (field.1, ·)
      return (.record values, rest)
    | _ => none

end Reader

end Cbor

end ReporterRegistry

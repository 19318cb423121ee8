import ReporterRegistry.Cbor.Head

/-!
# Passing over items

An item whose value nobody asks for still has to be well formed: texts are UTF-8,
simple values are false, true, null or undefined, and arrays, maps and tags nest
only so deep.

A tag for big numbers in front of a byte string of definite length and at most 16
octets is a number, which takes no level of its own; a negative one has to fit a
signed number of 128 bits. In front of anything else it is a tag like any other.
-/

namespace ReporterRegistry

namespace Cbor

/-- The tag of a negative number in a byte string: `-1 - n` for the octets of `n`. -/
def bigNegativeTag : Nat := 3

/-- The octets of a number behind a tag for big numbers. -/
def bigDigits? (tag : Nat) (bs : Bytes) : Option (Bytes × Bytes) := do
  let (head, rest) ← Head.read? bs
  match head with
  | .bytes (some length) =>
    if (tag = bigTag ∨ tag = bigNegativeTag) ∧ length ≤ 16 then split? length rest else none
  | _ => none

/-- Pass over an item, given how to pass over those inside it, if there may be any. -/
def skipWith? (inside? : Option (Bytes → Option (Unit × Bytes))) (bs : Bytes) :
    Option (Unit × Bytes) := do
  let (head, rest) ← Head.read? bs
  match head with
  | .unsigned _ | .negative _ | .float => return ((), rest)
  | .simple number => if 20 ≤ number ∧ number ≤ 23 then return ((), rest) else none
  | .close => none
  | .bytes length =>
    let (_, rest) ← content? Head.bytesLength? length rest
    return ((), rest)
  | .text length =>
    let (chunks, rest) ← content? Head.textLength? length rest
    if chunks.all fun chunk => (toText? chunk).isSome then return ((), rest) else none
  | .array count =>
    let (_, rest) ← run? (← inside?) count rest
    return ((), rest)
  | .map count =>
    let skip ← inside?
    let entry := fun bs => (skip bs).bind fun (_, rest) => skip rest
    let (_, rest) ← run? entry count rest
    return ((), rest)
  | .tag number =>
    match bigDigits? number rest with
    | some (digits, rest) =>
      if number = bigTag ∨ Bytes.toNat digits < 1 <<< 127 then return ((), rest) else none
    | none => (← inside?) rest

/-- Pass over an item that nests at most `depth` levels. -/
def skip? : Nat → Bytes → Option (Unit × Bytes)
  | 0 => skipWith? none
  | depth + 1 => skipWith? (some (skip? depth))

end Cbor

end ReporterRegistry

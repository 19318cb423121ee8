import ReporterRegistry.Bytes
import ReporterRegistry.Json.Value

/-!
# Reading values of known shapes

How numbers, octets, names and records are found in a tree.

A record is an object that has each of its fields exactly once; members of other
names are passed over. It may also be an array of exactly its fields in order. A
name out of a fixed list is a string, or an object with that name as its only
key and `null` as its value.
-/

namespace ReporterRegistry

namespace Json

/-- A plain natural number below a bound. -/
def natBelow? (bound : Nat) : Json → Option Nat
  | .number written =>
    match written.natural? with
    | some n => if n < bound then some n else none
    | none => none
  | _ => none

/-- A plain natural number of so many bits. -/
def word? (w : Nat) (value : Json) : Option (BitVec w) :=
  (natBelow? (1 <<< w) value).map (BitVec.ofNat w)

/-- Octets as an array of numbers. -/
def octets? : Json → Option Bytes
  | .array items => items.mapM fun item => (natBelow? 256 item).map UInt8.ofNat
  | _ => none

/-- Octets as an array of numbers. -/
def ofOctets (bs : Bytes) : Json := .array (bs.map fun b => ofNat b.toNat)

/-- A string that is a text. -/
def text? : Json → Option String
  | .string content => content.toString?
  | _ => none

/-- A name, given which values may stand beside it when it is a key. -/
def nameWith? (mayFollow : Json → Bool) : Json → Option String
  | .string content => content.toString?
  | .object [(key, value)] => if mayFollow value then key.toString? else none
  | _ => none

/-- Whether a value is `null`. -/
def isNull : Json → Bool
  | .null => true
  | _ => false

/-- A name. -/
def name? (value : Json) : Option String := nameWith? isNull value

/-- The values of the members with a name. -/
def valuesOf (name : String) (members : List (JsonText × Json)) : List Json :=
  (members.filter fun member => member.1 = .ofString name).map (·.2)

/-- The value of the only member with a name. -/
def only? (members : List (JsonText × Json)) (name : String) : Option Json :=
  match valuesOf name members with
  | [value] => some value
  | _ => none

/-- Whether every key of an object is a text. -/
def keysAreTexts (members : List (JsonText × Json)) : Bool :=
  members.all fun member => member.1.toString?.isSome

/-- The fields of a record, in the order of their names. -/
def fields? (names : List String) : Json → Option (List Json)
  | .object members => if keysAreTexts members then names.mapM (only? members) else none
  | .array items => if items.length = names.length then some items else none
  | _ => none

mutual

/-- Whether a value can be held for later: all of its strings and keys are
texts, its numbers are in the range of double precision, and it nests at most
`depth` arrays and objects. -/
def isHoldable (depth : Nat) : Json → Bool
  | .null | .bool _ => true
  | .number written => written.fitsDouble
  | .string content => content.toString?.isSome
  | .array items =>
    match depth with
    | 0 => false
    | depth + 1 => areHoldable depth items
  | .object members =>
    match depth with
    | 0 => false
    | depth + 1 => membersAreHoldable depth members

/-- Whether all items of an array can be held for later. -/
def areHoldable (depth : Nat) : List Json → Bool
  | [] => true
  | item :: rest => isHoldable depth item && areHoldable depth rest

/-- Whether all members of an object can be held for later. -/
def membersAreHoldable (depth : Nat) : List (JsonText × Json) → Bool
  | [] => true
  | (key, value) :: rest =>
    key.toString?.isSome && isHoldable depth value && membersAreHoldable depth rest

end

@[simp] theorem natBelow?_ofNat {bound n : Nat} (h : n < bound) :
    natBelow? bound (ofNat n) = some n := by
  simp [natBelow?, ofNat, h]

/-- A number of so many bits is read at its width. -/
@[simp] theorem word?_ofNat {w : Nat} (x : BitVec w) : word? w (ofNat x.toNat) = some x := by
  simp [word?, Nat.one_shiftLeft, natBelow?_ofNat x.isLt]

/-- Every octet is read from its own number. -/
@[simp] theorem octets?_ofOctets (bs : Bytes) : octets? (ofOctets bs) = some bs := by
  simp only [octets?, ofOctets, List.mapM_map]
  induction bs with
  | nil => rfl
  | cons b bs ih =>
    simp only [List.mapM_cons, Function.comp, ih]
    simp [natBelow?_ofNat b.toNat_lt]

/-- A text is read back, whatever its characters are. -/
@[simp] theorem text?_ofString (text : String) : text? (ofString text) = some text := by
  simp [text?, ofString]

@[simp] theorem name?_ofString (text : String) : name? (ofString text) = some text := by
  simp [name?, nameWith?, ofString]

end Json

end ReporterRegistry

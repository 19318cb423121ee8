import ReporterRegistry.FloatingPoint
import ReporterRegistry.Text.Decimal

/-!
# JSON values

A JSON document as a tree. Two things that a document can write are kept apart
from what the registry reads:

* a string may escape half of a surrogate pair, so `JsonText` is a sequence of
  characters and lone surrogates, and `JsonText.toString?` is its text if it has
  one; and
* a number may carry a sign, a fraction or an exponent, so `JsonNumber` keeps
  them; `JsonNumber.natural?` is its value if it is a plain natural number, and
  `JsonNumber.fitsDouble` says whether double precision could hold it.

Members of an object keep their order and may repeat.
-/

namespace ReporterRegistry

/-! ### Strings -/

/-- What a place in a string can hold. -/
inductive JsonChar where
  | char (c : Char)
  /-- Half of a surrogate pair without the other half. -/
  | surrogate (code : Nat)
  deriving DecidableEq, Repr

/-- The content of a string. -/
abbrev JsonText := List JsonChar

namespace JsonText

/-- The content that writes a text. -/
def ofString (text : String) : JsonText := text.toList.map .char

/-- The characters of a content without lone surrogates. -/
def chars? : JsonText → Option (List Char)
  | [] => some []
  | .char c :: rest => (chars? rest).map (c :: ·)
  | .surrogate _ :: _ => none

/-- The text of a content without lone surrogates. -/
def toString? (content : JsonText) : Option String := (chars? content).map String.ofList

theorem chars?_map_char (cs : List Char) : chars? (cs.map .char) = some cs := by
  induction cs with
  | nil => rfl
  | cons c cs ih => simp [chars?, ih]

@[simp] theorem toString?_ofString (text : String) : toString? (ofString text) = some text := by
  simp [toString?, ofString, chars?_map_char]

end JsonText

/-! ### Numbers -/

/-- A number as it is written. -/
structure JsonNumber where
  negative : Bool
  whole : Nat
  /-- The digits after the point; none if there is no point. -/
  fraction : List Nat
  exponent : Option Int
  deriving DecidableEq, Repr

namespace JsonNumber

/-- A natural number without sign, point or exponent. -/
def ofNat (n : Nat) : JsonNumber := ⟨false, n, [], none⟩

/-- The value of a number without sign, point or exponent. -/
def natural? (number : JsonNumber) : Option Nat :=
  match number with
  | ⟨false, n, [], none⟩ => some n
  | _ => none

@[simp] theorem natural?_ofNat (n : Nat) : natural? (ofNat n) = some n := rfl

/-- Whether a digit can be appended to a number of 64 bits. -/
def hasRoom (n digit : Nat) : Bool := 10 * n + digit < UInt64.size

/-- The leading digits as a number of 64 bits, and the power of ten that belongs to
them. -/
def leading (number : JsonNumber) : Nat × Int :=
  Decimal.leading hasRoom (Radix.digits 10 number.whole).reverse number.fraction
    (number.exponent.getD 0)

/-- Whether a number is in the range of double precision. Its leading digits and
the power of ten are rounded before they are multiplied, so close to the limit it
is the rounded product that counts. -/
def fitsDouble (number : JsonNumber) : Bool :=
  let (n, power) := number.leading
  let double := FloatFormat.double
  if n = 0 ∨ power < 0 then true
  else if 308 < power then false
  else
    let factor := double.round (.ofNat (Nat.pow 10 power.toNat))
    (double.mul (double.round (.ofNat n)) factor).isBelow 1024

end JsonNumber

/-! ### Values -/

/-- A JSON value. -/
inductive Json where
  | null
  | bool (value : Bool)
  | number (number : JsonNumber)
  | string (content : JsonText)
  | array (items : List Json)
  | object (members : List (JsonText × Json))

namespace Json

/-- A string value with a text. -/
def ofString (text : String) : Json := .string (.ofString text)

/-- A natural number. -/
def ofNat (n : Nat) : Json := .number (.ofNat n)

/-- An object with named members. -/
def ofFields (fields : List (String × Json)) : Json :=
  .object (fields.map fun field => (.ofString field.1, field.2))

end Json

end ReporterRegistry

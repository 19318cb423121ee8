import ReporterRegistry.Bytes
import ReporterRegistry.Store.Numeral

/-!
# Cells

The values that a database keeps in a row, and what a column's affinity makes of
a value on its way in: a text column turns an integer into its decimal text, an
integer column turns a text that stands for a whole number into that number, and a
blob column changes nothing.
-/

namespace ReporterRegistry

/-- A stored value. -/
inductive Cell where
  | integer (n : Int)
  | text (content : String)
  | blob (content : Bytes)
  deriving DecidableEq, Repr

/-- What a column makes of the values it is given. -/
inductive Affinity where
  | integer
  | text
  | blob
  deriving DecidableEq, Repr

namespace Cell

/-- The value of an integer cell. -/
def integer? : Cell → Option Int
  | .integer n => some n
  | _ => none

/-- The value of a text cell. -/
def text? : Cell → Option String
  | .text content => some content
  | _ => none

/-- The value of a blob cell. -/
def blob? : Cell → Option Bytes
  | .blob content => some content
  | _ => none

/-- The value of an integer cell that fits one octet. -/
def octet? (cell : Cell) : Option Nat := do
  let n ← cell.integer?
  if 0 ≤ n ∧ n < 256 then some n.toNat else none

/-- What is stored when a value is put into a column. -/
def convert : Affinity → Cell → Cell
  | .text, .integer n => .text (toString n)
  | .integer, .text content =>
    match (Numeral.ofText? content).bind Numeral.integer? with
    | some n => .integer n
    | none => .text content
  | _, cell => cell

end Cell

end ReporterRegistry

/-!
# Address formats

The chain families whose ways of writing an address the registry knows. A
registry works in one format; every account carries its own.
-/

namespace ReporterRegistry

/-- The chain family that fixes how an address is written. -/
inductive AddressFormat where
  | plain
  | solana
  | ethereum
  | bitcoin
  | near
  deriving DecidableEq, Repr

namespace AddressFormat

/-- All formats. -/
def all : List AddressFormat := [.plain, .solana, .ethereum, .bitcoin, .near]

/-- The name of a format, as it is stored and shown. -/
def name : AddressFormat → String
  | .plain => "plain"
  | .solana => "solana"
  | .ethereum => "ethereum"
  | .bitcoin => "bitcoin"
  | .near => "near"

/-- The format of a name; letter case matters. -/
def ofName? (text : String) : Option AddressFormat := all.find? fun format => format.name = text

/-- Names tell formats apart. -/
@[simp] theorem ofName?_name (format : AddressFormat) : ofName? format.name = some format := by
  cases format <;> decide

/-- A name that reads as a format is the name of that format. -/
theorem name_of_ofName? {text : String} {format : AddressFormat}
    (h : ofName? text = some format) : format.name = text := by
  simpa using List.find?_some h

end AddressFormat

end ReporterRegistry

import ReporterRegistry.Text.Base58
import ReporterRegistry.Text.Hex

/-!
# Faults of addresses

Why a text is no address of its format, why octets are the canonical form of
none, or why they do not fit a derivation.
-/

namespace ReporterRegistry

/-- What is wrong with an address. -/
inductive AddressFault where
  /-- An Ethereum address has 40 digits after its marker. -/
  | digitCount (found : Nat)
  | hex (fault : Hex.Fault)
  | base58 (fault : Base58.Fault)
  /-- The canonical form has a fixed number of octets. -/
  | length (expected found : Nat)
  | utf8 (fault : Utf8.Fault)
  /-- The canonical form is too long for the address field of a derivation. -/
  | fieldOverflow (found : Nat)
  deriving DecidableEq, Repr

/-- The fault in words. -/
def AddressFault.message : AddressFault → String
  | .digitCount found => s!"expected 40 hex digits, got {found}"
  | .hex fault => fault.message
  | .base58 fault => fault.message
  | .length expected found => s!"expected {expected} bytes, got {found}"
  | .utf8 fault => fault.message
  | .fieldOverflow found => s!"{found} bytes do not fit the 64 byte seed field"

end ReporterRegistry

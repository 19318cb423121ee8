import ReporterRegistry.Address.Fault
import ReporterRegistry.AddressFormat

/-!
# Input errors

Why a value handed to the registry, or to a derivation, is refused.
-/

namespace ReporterRegistry

/-- What a refused value was meant to be. -/
inductive ValueKind where
  | addressFormat
  | publicKey
  | reporterId
  | role
  | status
  | unlockDuration
  | vectorKey
  | assetId
  | owner
  | authority
  | registryAccount
  deriving DecidableEq, Repr

/-- The kind in words. -/
def ValueKind.name : ValueKind → String
  | .addressFormat => "network schema"
  | .publicKey => "pubkey"
  | .reporterId => "reporter id"
  | .role => "reporter role"
  | .status => "reporter status"
  | .unlockDuration => "unlock duration"
  | .vectorKey => "vector key"
  | .assetId => "asset id"
  | .owner => "owner"
  | .authority => "authority"
  | .registryAccount => "registry account"

/-- Why an input is refused. -/
inductive InputError where
  | invalidAddress (format : AddressFormat) (fault : AddressFault)
  /-- Every bump leads to a point of the curve. -/
  | bumpsExhausted
  /-- A seed segment is longer than 32 octets. -/
  | segmentTooLong (length : Nat)
  /-- There are more than 16 seed segments. -/
  | tooManySegments (count : Nat)
  /-- The segments lead to a point of the curve. -/
  | onCurve
  /-- A value of some kind cannot be used; `shown` is the value, with the reason
  if it has one of its own. -/
  | invalidValue (kind : ValueKind) (shown : String)
  deriving DecidableEq, Repr

/-- The error in words. -/
def InputError.message : InputError → String
  | .invalidAddress format fault => s!"invalid {format.name} address: {fault.message}"
  | .bumpsExhausted => "no bump seed produced an off-curve address"
  | .segmentTooLong length => s!"seed segment of {length} bytes exceeds the 32 byte limit"
  | .tooManySegments count => s!"{count} seed segments exceed the limit of 16"
  | .onCurve => "seeds derive a point on the ed25519 curve"
  | .invalidValue kind shown => s!"invalid {kind.name}: {shown}"

/-- The format of a name, or an error that shows the name. -/
def AddressFormat.parse (text : String) : Except InputError AddressFormat :=
  match ofName? text with
  | some format => .ok format
  | none => .error (.invalidValue .addressFormat text)

end ReporterRegistry

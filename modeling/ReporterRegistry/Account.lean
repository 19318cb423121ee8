import ReporterRegistry.Address.Codec
import ReporterRegistry.InputError
import ReporterRegistry.PublicKey

/-!
# Accounts

An identity on a network: canonical address octets tagged with their format.
Owners, authorities, reporters and tokens are all accounts.

The two checked constructors (`Account.parse`, `Account.ofBytes`) only build
accounts whose octets are canonical. Accounts that come out of a document may
hold any octets, so the type does not promise it; `Account.isCanonical` is the
test.
-/

namespace ReporterRegistry

/-- An identity on a given network. -/
structure Account where
  format : AddressFormat
  bytes : Bytes
  deriving DecidableEq, Repr

namespace Account

/-- The account of an address text. -/
def parse (format : AddressFormat) (text : String) : Except InputError Account :=
  match Address.encode format text with
  | .ok bs => .ok ⟨format, bs⟩
  | .error fault => .error (.invalidAddress format fault)

/-- The account of canonical octets. -/
def ofBytes (format : AddressFormat) (bs : Bytes) : Except InputError Account :=
  match Address.validate format bs with
  | .ok () => .ok ⟨format, bs⟩
  | .error fault => .error (.invalidAddress format fault)

/-- The address text of canonical octets. -/
def textOfBytes (format : AddressFormat) (bs : Bytes) : Except InputError String :=
  match Address.decode format bs with
  | .ok text => .ok text
  | .error fault => .error (.invalidAddress format fault)

/-- Whether the octets are canonical for the format. -/
def isCanonical (account : Account) : Bool := (Address.validate account.format account.bytes).isOk

/-- The Solana account of a key. -/
def ofKey (key : PublicKey) : Account := ⟨.solana, key.bytes⟩

/-- The key of a Solana account. -/
def toKey? (account : Account) : Option PublicKey :=
  if account.format = .solana then PublicKey.ofBytes? account.bytes else none

/-- How many octets the zero address of a format has. -/
def zeroLength : AddressFormat → Nat
  | .ethereum => Address.ethereumLength
  | .solana => Address.solanaLength
  | .plain | .bitcoin | .near => 0

/-- The zero address of a format, which stands for "unset". -/
def zero (format : AddressFormat) : Account := ⟨format, List.replicate (zeroLength format) 0⟩

/-- Whether all octets are zero. An account without octets is zero. -/
def isZero (account : Account) : Bool := account.bytes.all (· = 0)

/-- The address text of an account. Octets that are not canonical are shown in
hexadecimal. -/
def display (account : Account) : String :=
  match Address.decode account.format account.bytes with
  | .ok text => text
  | .error _ => "0x" ++ String.ofList (Hex.encode account.bytes)

/-- The text with the format in front, for diagnostics. -/
def describe (account : Account) : String :=
  s!"Account({account.format.name}:{account.display})"

/-- Canonical octets make an account, and only they do. -/
theorem ofBytes_eq_ok_iff {format : AddressFormat} {bs : Bytes} {account : Account} :
    ofBytes format bs = .ok account ↔ account = ⟨format, bs⟩ ∧ account.isCanonical = true := by
  unfold ofBytes
  constructor
  · intro h
    split at h
    · rename_i hv
      cases h
      exact ⟨rfl, by simp [isCanonical, hv, Except.isOk, Except.toBool]⟩
    · cases h
  · rintro ⟨rfl, hc⟩
    simp only [isCanonical] at hc
    split
    · rfl
    · rename_i hv
      simp [hv, Except.isOk, Except.toBool] at hc

end Account

end ReporterRegistry

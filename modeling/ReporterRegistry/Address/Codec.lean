import ReporterRegistry.Address.Checksum
import ReporterRegistry.Address.Fault
import ReporterRegistry.AddressFormat

/-!
# Address codec

Every format has texts, as people write them, and canonical octets, which are
what the registry stores and derives from. Two spellings of one address have the
same octets.

* Ethereum: 40 hexadecimal digits of either case after an optional marker stand
  for 20 octets, which are written with the checksum.
* Solana: base58 text of 32 octets.
* All others: the UTF-8 octets of the text.

`Address.encode` goes from text to octets, `Address.decode` back;
`Address.validate` is the test that `decode` makes (`validate_eq_map_decode`),
without the cost of the checksum.
-/

namespace ReporterRegistry

namespace Address

/-- Octets of an Ethereum address. -/
def ethereumLength : Nat := 20

/-- Octets of a Solana address. -/
def solanaLength : Nat := 32

/-- The digits of an Ethereum text, without its marker. -/
def withoutMarker : List Char → List Char
  | '0' :: 'x' :: rest => rest
  | '0' :: 'X' :: rest => rest
  | cs => cs

/-- The octets of an Ethereum text. -/
def encodeEthereum (cs : List Char) : Except AddressFault Bytes :=
  let digits := Utf8.encode (withoutMarker cs)
  if digits.length ≠ 2 * ethereumLength then .error (.digitCount digits.length)
  else (Hex.decode digits).mapError .hex

/-- Accept octets of one length only. -/
def requireLength (expected : Nat) (bs : Bytes) : Except AddressFault Unit :=
  if bs.length = expected then .ok () else .error (.length expected bs.length)

/-- The octets of a Solana text. -/
def encodeSolana (cs : List Char) : Except AddressFault Bytes := do
  let bs ← (Base58.decode (Utf8.encode cs)).mapError .base58
  requireLength solanaLength bs
  return bs

/-- The canonical octets of an address text. -/
def encode (format : AddressFormat) (text : String) : Except AddressFault Bytes :=
  match format with
  | .ethereum => encodeEthereum text.toList
  | .solana => encodeSolana text.toList
  | .plain | .bitcoin | .near => .ok (Utf8.encode text.toList)

/-- Whether a text is an address of the format. -/
def isValid (format : AddressFormat) (text : String) : Bool := (encode format text).isOk

/-- The text of canonical octets. -/
def decode (format : AddressFormat) (bs : Bytes) : Except AddressFault String :=
  match format with
  | .ethereum => (requireLength ethereumLength bs).map fun _ => String.ofList (checksummed bs)
  | .solana => (requireLength solanaLength bs).map fun _ => String.ofList (Base58.encode bs)
  | .plain | .bitcoin | .near =>
    ((Utf8.decode bs).mapError .utf8).map fun cs => String.ofList cs

/-- Whether octets are canonical for the format, and if not, why. -/
def validate (format : AddressFormat) (bs : Bytes) : Except AddressFault Unit :=
  match format with
  | .ethereum => requireLength ethereumLength bs
  | .solana => requireLength solanaLength bs
  | .plain | .bitcoin | .near => ((Utf8.decode bs).mapError .utf8).map fun _ => ()

/-- Validation accepts what decoding accepts and gives the same fault. -/
theorem validate_eq_map_decode (format : AddressFormat) (bs : Bytes) :
    validate format bs = (decode format bs).map fun _ => () := by
  cases format <;> simp only [validate, decode]
  case solana | ethereum => cases requireLength _ bs <;> rfl
  all_goals cases Utf8.decode bs <;> rfl

end Address

end ReporterRegistry

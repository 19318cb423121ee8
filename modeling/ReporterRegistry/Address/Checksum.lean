import ReporterRegistry.Hash.Keccak256
import ReporterRegistry.Text.Hex

/-!
# The Ethereum checksum

EIP-55 spreads a checksum over the letter case of an address: a letter is upper
case exactly if the matching half octet of the Keccak-256 hash of the lower-case
digits is eight or more.
-/

namespace ReporterRegistry

namespace Address

/-- The half octets of a byte string, high half first. -/
def nibbles (bs : Bytes) : List Nat := bs.flatMap fun b => [b.toNat / 16, b.toNat % 16]

/-- A digit in the letter case that a half octet of the hash asks for. -/
def casedDigit (c : Char) (nibble : Nat) : Char :=
  if c.isAlpha ∧ 8 ≤ nibble then c.toUpper else c

/-- The checksummed text of an Ethereum address. -/
def checksummed (bs : Bytes) : List Char :=
  let lower := Hex.encode bs
  let hash := Keccak256.digest (Utf8.encode lower)
  '0' :: 'x' :: List.zipWith casedDigit lower (nibbles hash)

end Address

end ReporterRegistry

import ReporterRegistry.Ed25519.Point
import ReporterRegistry.Hash.Sha512
import ReporterRegistry.PublicKey

/-!
# Key pairs

The public key of a 32-byte secret seed, as RFC 8032 prescribes: the first half
of the seed's SHA-512 hash is clamped to a scalar, and the key is the compressed
multiple of the generator.
-/

namespace ReporterRegistry

namespace Ed25519

/-- The scalar of a seed: a multiple of eight with bit 254 set and nothing above. -/
def scalar (seed : Bytes) : Nat :=
  let n := Bytes.toNatLE ((Sha512.digest seed).take 32)
  n % (1 <<< 254) / 8 * 8 + (1 <<< 254)

/-- The public key of a seed. -/
def publicKey (seed : Bytes) : PublicKey :=
  PublicKey.ofNatLE (Point.compress (Point.scale (scalar seed) Point.generator))

/-- The key pair of a seed, for diagnostics. It shows the public key only. -/
def describe (seed : Bytes) : String := s!"Keypair({(publicKey seed).describe})"

end Ed25519

end ReporterRegistry

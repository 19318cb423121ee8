import ReporterRegistry.Ed25519.Point
import ReporterRegistry.Hash.Sha256
import ReporterRegistry.InputError
import ReporterRegistry.PublicKey

/-!
# Program-derived addresses

The address of a list of seed segments under a program id is
`SHA-256(segments ++ program id ++ marker)`. It is refused if it is a point of
the curve, so no key pair can sign for it. `ProgramAddress.find` appends a
one-octet bump and takes the highest bump, from 255 down to 1, whose address is
not refused.
-/

namespace ReporterRegistry

namespace ProgramAddress

/-- The limit on segments, the bump included. -/
def maxSegments : Nat := 16

/-- The limit on the octets of a segment. -/
def maxSegmentLength : Nat := 32

/-- The octets that end every message. -/
def marker : Bytes := Utf8.encode "ProgramDerivedAddress".toList

/-- The message that is hashed. No lengths separate the segments. -/
def message (segments : List Bytes) (program : PublicKey) : Bytes :=
  segments.flatten ++ program.bytes ++ marker

/-- The first segment that is too long. -/
def overlong? (segments : List Bytes) : Option Bytes :=
  segments.find? fun segment => maxSegmentLength < segment.length

/-- The hash of the message as a key, whether or not it is usable. -/
def candidate (segments : List Bytes) (program : PublicKey) : PublicKey :=
  let digest := Digest.of (message segments program)
  ⟨digest.bytes, digest.length_bytes⟩

/-- The address of an exact list of segments, the bump included. -/
def create (segments : List Bytes) (program : PublicKey) : Except InputError PublicKey :=
  if maxSegments < segments.length then .error (.tooManySegments segments.length)
  else
    match overlong? segments with
    | some segment => .error (.segmentTooLong segment.length)
    | none =>
      let address := candidate segments program
      if Ed25519.isOnCurve address.bytes then .error .onCurve else .ok address

end ProgramAddress

/-- A derived address and the bump that led to it. -/
structure DerivedAddress where
  address : PublicKey
  bump : Nat
  deriving DecidableEq, Repr

namespace ProgramAddress

/-- Try the bumps from the given one down to 1. Only an address on the curve
makes the search go on. -/
def findFrom (segments : List Bytes) (program : PublicKey) :
    Nat → Except InputError DerivedAddress
  | 0 => .error .bumpsExhausted
  | bump + 1 =>
    match create (segments ++ [[UInt8.ofNat (bump + 1)]]) program with
    | .ok address => .ok ⟨address, bump + 1⟩
    | .error .onCurve => findFrom segments program bump
    | .error error => .error error

/-- The address of a list of segments with the highest bump that can be used. -/
def find (segments : List Bytes) (program : PublicKey) : Except InputError DerivedAddress :=
  if maxSegments < segments.length + 1 then .error (.tooManySegments (segments.length + 1))
  else findFrom segments program 255

end ProgramAddress

end ReporterRegistry

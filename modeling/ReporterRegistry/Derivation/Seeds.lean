import ReporterRegistry.Address.Codec
import ReporterRegistry.InputError
import ReporterRegistry.PublicKey

/-!
# Seed segments

The discriminators that a derivation is made of, and the segments each of them
becomes:

| part | segments |
|------|----------|
| key | its 32 octets |
| name | 32 octets, padded with zeros or cut |
| number | 8 octets, least significant first |
| address | its canonical octets padded to 64, as two segments of 32 |
| asset id | 32 octets, padded with zeros or cut |
-/

namespace ReporterRegistry

/-- One discriminator of a derivation. -/
inductive SeedPart where
  | key (key : PublicKey)
  | name (text : String)
  | number (value : BitVec 64)
  /-- An address in its network's own text. -/
  | address (format : AddressFormat) (text : String)
  /-- An address in its canonical octets. -/
  | canonical (format : AddressFormat) (bytes : Bytes)
  | assetId (bytes : Bytes)
  deriving DecidableEq, Repr

namespace SeedPart

/-- Octets of the field that holds an address. -/
def addressField : Nat := 64

/-- Octets of a name, an asset id, and one half of an address field. -/
def fieldLength : Nat := 32

/-- The two halves of the field that holds canonical octets. -/
def halves (format : AddressFormat) (bs : Bytes) : Except InputError (List Bytes) :=
  if addressField < bs.length then .error (.invalidAddress format (.fieldOverflow bs.length))
  else
    let field := Bytes.resize addressField bs
    .ok [field.take fieldLength, field.drop fieldLength]

/-- The segments of a part. -/
def segments : SeedPart → Except InputError (List Bytes)
  | .key parent => .ok [parent.bytes]
  | .name text => .ok [Bytes.resize fieldLength (Utf8.encode text.toList)]
  | .number value => .ok [Bytes.ofNatLE 8 value.toNat]
  | .address format text =>
    match Address.encode format text with
    | .ok bs => halves format bs
    | .error fault => .error (.invalidAddress format fault)
  | .canonical format bs => halves format bs
  | .assetId bs => .ok [Bytes.resize fieldLength bs]

end SeedPart

/-- A list of segments that starts with a domain tag. -/
abbrev Seeds := List Bytes

namespace Seeds

/-- A tag and nothing else. -/
def ofTag (tag : String) : Seeds := [Utf8.encode tag.toList]

/-- Append the segments of a part. -/
def push (seeds : Seeds) (part : SeedPart) : Except InputError Seeds :=
  part.segments.map (seeds ++ ·)

/-- The segments of parts, in order, after those already there. The first part
that is refused decides the error. -/
def append (seeds : Seeds) : List SeedPart → Except InputError Seeds
  | [] => .ok seeds
  | part :: parts =>
    match push seeds part with
    | .ok seeds => append seeds parts
    | .error error => .error error

end Seeds

end ReporterRegistry

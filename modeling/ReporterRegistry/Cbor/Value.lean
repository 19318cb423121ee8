import ReporterRegistry.Radix
import ReporterRegistry.Text.Utf8

/-!
# Values in CBOR

The kinds of values that are kept in the binary data format of RFC 8949, and
their encoding with the shortest heads: a record is a map with named entries,
octets are an array of numbers.

Numbers from `2 ^ 64` on do not fit a head. They are written as a byte string
under the tag for big numbers.
-/

namespace ReporterRegistry

/-- A value that is kept in CBOR. -/
inductive Cbor where
  | natural (n : Nat)
  | text (content : String)
  | octets (content : Bytes)
  | record (fields : List (String × Cbor))

namespace Cbor

/-- The tag of a natural number in a byte string. -/
def bigTag : Nat := 2

/-- The head of an item: its kind, and a number below `2 ^ 64` in the fewest
octets. -/
def head (major n : Nat) : Bytes :=
  if n < 24 then [UInt8.ofNat (32 * major + n)]
  else if n < UInt8.size then UInt8.ofNat (32 * major + 24) :: Bytes.ofNatBE 1 n
  else if n < UInt16.size then UInt8.ofNat (32 * major + 25) :: Bytes.ofNatBE 2 n
  else if n < UInt32.size then UInt8.ofNat (32 * major + 26) :: Bytes.ofNatBE 4 n
  else UInt8.ofNat (32 * major + 27) :: Bytes.ofNatBE 8 n

/-- A natural number of any size. -/
def encodeNat (n : Nat) : Bytes :=
  if n < UInt64.size then head 0 n
  else
    let digits := Radix.octets n
    head 6 bigTag ++ head 2 digits.length ++ digits

/-- A text string. -/
def encodeText (text : String) : Bytes :=
  let bs := Utf8.encode text.toList
  head 3 bs.length ++ bs

/-- Octets as an array of numbers. -/
def encodeOctets (bs : Bytes) : Bytes :=
  head 4 bs.length ++ bs.flatMap fun b => encodeNat b.toNat

mutual

/-- The octets of a value. -/
def encode : Cbor → Bytes
  | .natural n => encodeNat n
  | .text content => encodeText content
  | .octets content => encodeOctets content
  | .record fields => head 5 fields.length ++ encodeFields fields

/-- The octets of names and values in a row. -/
def encodeFields : List (String × Cbor) → Bytes
  | [] => []
  | (name, value) :: rest => encodeText name ++ encode value ++ encodeFields rest

end

end Cbor

end ReporterRegistry

import ReporterRegistry.Text.Quoted
import ReporterRegistry.Radix
import ReporterRegistry.Text.Utf8

/-!
# Base58

Octets as a number in base 58, with the digits and capital and small letters
less the four that look alike (`0`, `O`, `I`, `l`). Leading zero octets are
written as leading `1`s, one for one, so no length is lost.
-/

namespace ReporterRegistry

namespace Base58

/-- The digits in order of value. -/
def alphabet : List Char := "123456789ABCDEFGHJKLMNPQRSTUVWXYZabcdefghijkmnopqrstuvwxyz".toList

/-- The character of a digit. -/
def digitChar (d : Nat) : Char := alphabet.getD d '1'

/-- The value of an octet that is a digit. -/
def digit? (b : UInt8) : Option Nat :=
  let i := alphabet.idxOf (Char.ofNat b.toNat)
  if i < 58 then some i else none

/-- Why a text is not base58. -/
inductive Fault where
  /-- The octet at `index` is an ASCII character outside the alphabet. -/
  | invalidCharacter (octet : UInt8) (index : Nat)
  /-- A character outside ASCII starts at `index`. -/
  | nonAscii (index : Nat)
  deriving DecidableEq, Repr

/-- The fault in words. -/
def Fault.message : Fault → String
  | .invalidCharacter octet index =>
    s!"provided string contained invalid character {Quoted.octet octet} at byte {index}"
  | .nonAscii index =>
    s!"provided string contained non-ascii character starting at byte {index}"

/-- The value of the digit at a position. -/
def digitAt (index : Nat) (b : UInt8) : Except Fault Nat :=
  if 127 < b.toNat then .error (.nonAscii index)
  else
    match digit? b with
    | some d => .ok d
    | none => .error (.invalidCharacter b index)

/-- The values of digits that start at position `index` of the text. -/
def digitsFrom (index : Nat) : Bytes → Except Fault (List Nat)
  | [] => .ok []
  | b :: rest => do
    let d ← digitAt index b
    let ds ← digitsFrom (index + 1) rest
    return d :: ds

/-- Octets as base58. -/
def encode (bs : Bytes) : List Char :=
  let zeros := bs.takeWhile (· = 0)
  let digits := Radix.digits 58 bs.toNat
  zeros.map (fun _ => '1') ++ digits.reverse.map digitChar

/-- The octets that base58 digits write. -/
def octets (ds : List Nat) : Bytes :=
  let zeros := ds.takeWhile (· = 0)
  zeros.map (fun _ => 0) ++ Radix.octets (Radix.value 58 ds.reverse)

/-- The octets that a text writes. -/
def decode (text : Bytes) : Except Fault Bytes := (digitsFrom 0 text).map octets

/-- The octets that a character text writes. -/
def decodeText (text : String) : Except Fault Bytes := decode (Utf8.encode text.toList)

end Base58

end ReporterRegistry

import ReporterRegistry.Text.Quoted
import ReporterRegistry.Text.Utf8

/-!
# Hexadecimal

Two digits an octet, high half first. Writing uses lower-case digits; reading
takes either case and works on the octets of the text, so that a fault names the
position in octets:

* `Hex.encode` and `Hex.decode` — the two directions; and
* `Hex.Fault` — an odd number of digits, or the first octet that is no digit.
-/

namespace ReporterRegistry

namespace Hex

/-- The digit of a half octet, in lower case. -/
def digitChar (n : Nat) : Char :=
  if n < 10 then Char.ofNat (48 + n) else Char.ofNat (87 + n)

/-- The value of an octet that is a hexadecimal digit of either case. -/
def digit? (b : UInt8) : Option Nat :=
  let n := b.toNat
  if 48 ≤ n ∧ n ≤ 57 then some (n - 48)
  else if 97 ≤ n ∧ n ≤ 102 then some (n - 87)
  else if 65 ≤ n ∧ n ≤ 70 then some (n - 55)
  else none

/-- Whether a character is a hexadecimal digit of either case. -/
def isDigit (c : Char) : Bool :=
  ('0' ≤ c && c ≤ '9') || ('a' ≤ c && c ≤ 'f') || ('A' ≤ c && c ≤ 'F')

/-- The two digits of an octet. -/
def encodeOctet (b : UInt8) : List Char := [digitChar (b.toNat / 16), digitChar (b.toNat % 16)]

/-- Octets as digits. -/
def encode (bs : Bytes) : List Char := bs.flatMap encodeOctet

/-- Why a text is not hexadecimal. -/
inductive Fault where
  /-- The number of digits is odd. -/
  | oddLength
  /-- The octet at `index` is no digit. -/
  | invalidDigit (octet : UInt8) (index : Nat)
  deriving DecidableEq, Repr

/-- The fault in words. -/
def Fault.message : Fault → String
  | .oddLength => "Odd number of digits"
  | .invalidDigit octet index => s!"Invalid character {Quoted.octet octet} at position {index}"

/-- The value of the digit at a position. -/
def digitAt (index : Nat) (b : UInt8) : Except Fault Nat :=
  match digit? b with
  | some d => .ok d
  | none => .error (.invalidDigit b index)

/-- Read pairs of digits that start at position `index` of the text. -/
def decodeFrom (index : Nat) : Bytes → Except Fault Bytes
  | [] => .ok []
  | [_] => .error .oddLength
  | hi :: lo :: rest => do
    let h ← digitAt index hi
    let l ← digitAt (index + 1) lo
    let tail ← decodeFrom (index + 2) rest
    return UInt8.ofNat (16 * h + l) :: tail

/-- The octets that a text writes. The length is checked before any digit. -/
def decode (text : Bytes) : Except Fault Bytes :=
  if text.length % 2 = 1 then .error .oddLength else decodeFrom 0 text

/-- The octets that a character text writes. -/
def decodeText (text : String) : Except Fault Bytes := decode (Utf8.encode text.toList)

@[simp] theorem encode_nil : encode [] = [] := rfl

@[simp] theorem encode_cons (b : UInt8) (bs : Bytes) :
    encode (b :: bs) = encodeOctet b ++ encode bs := rfl

/-- Every octet is written as two digits. -/
@[simp] theorem length_encode (bs : Bytes) : (encode bs).length = 2 * bs.length := by
  induction bs with
  | nil => rfl
  | cons b bs ih => simp [encodeOctet, ih]; omega

end Hex

end ReporterRegistry

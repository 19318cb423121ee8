import ReporterRegistry.Bytes

/-!
# Quoted characters

How a diagnostic shows an offending octet: read as a Latin-1 character, between
single quotes, with escapes for the quote, the backslash and everything that
does not print.
-/

namespace ReporterRegistry

namespace Quoted

/-- The digits of a number in lower-case hexadecimal, without leading zeros. -/
def hexDigits (n : Nat) : List Char := Nat.toDigits 16 n

/-- Whether a Latin-1 character has a glyph of its own: neither a control
character, nor the no-break space, nor the soft hyphen. -/
def prints (n : Nat) : Bool :=
  (0x20 ≤ n && n < 0x7F) || (0xA1 ≤ n && n != 0xAD)

/-- An octet as it stands between the quotes. -/
def escape (b : UInt8) : List Char :=
  match b.toNat with
  | 0x00 => ['\\', '0']
  | 0x09 => ['\\', 't']
  | 0x0A => ['\\', 'n']
  | 0x0D => ['\\', 'r']
  | 0x27 => ['\\', '\'']
  | 0x5C => ['\\', '\\']
  | n => if prints n then [Char.ofNat n] else ['\\', 'u', '\x7b'] ++ hexDigits n ++ ['\x7d']

/-- An octet as a quoted character. -/
def octet (b : UInt8) : String := String.ofList (['\''] ++ escape b ++ ['\''])

end Quoted

end ReporterRegistry

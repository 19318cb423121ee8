import ReporterRegistry.Bytes

/-!
# UTF-8

Text as octets and back. Reading is strict (no overlong forms, no surrogates,
nothing past U+10FFFF) and says of the first ill-formed sequence where it starts
and how many octets of it are to blame:

* `Utf8.encode` — the octets of a text;
* `Utf8.decode` — the text of octets, or a `Utf8.Fault`; and
* `Utf8.length` — how many octets a text takes.
-/

namespace ReporterRegistry

namespace Utf8

/-! ### Writing -/

/-- The octets of one character. -/
def encodeChar (c : Char) : Bytes :=
  let n := c.toNat
  if n < 0x80 then [UInt8.ofNat n]
  else if n < 0x800 then [UInt8.ofNat (0xC0 + n / 0x40), UInt8.ofNat (0x80 + n % 0x40)]
  else if n < 0x10000 then
    [UInt8.ofNat (0xE0 + n / 0x1000), UInt8.ofNat (0x80 + n / 0x40 % 0x40),
      UInt8.ofNat (0x80 + n % 0x40)]
  else
    [UInt8.ofNat (0xF0 + n / 0x40000), UInt8.ofNat (0x80 + n / 0x1000 % 0x40),
      UInt8.ofNat (0x80 + n / 0x40 % 0x40), UInt8.ofNat (0x80 + n % 0x40)]

/-- The octets of a text. -/
def encode (cs : List Char) : Bytes := cs.flatMap encodeChar

@[simp] theorem encode_nil : encode [] = [] := rfl

@[simp] theorem encode_cons (c : Char) (cs : List Char) :
    encode (c :: cs) = encodeChar c ++ encode cs := rfl

/-- Characters are written one by one, whatever stands next to them. -/
@[simp] theorem encode_append (cs ds : List Char) :
    encode (cs ++ ds) = encode cs ++ encode ds := by
  simp [encode]

/-- How many octets a character takes. -/
def width (c : Char) : Nat :=
  if c.toNat < 0x80 then 1
  else if c.toNat < 0x800 then 2
  else if c.toNat < 0x10000 then 3
  else 4

/-- The width of a character is how many octets write it. -/
theorem length_encodeChar (c : Char) : (encodeChar c).length = width c := by
  unfold encodeChar width
  simp only
  repeat' split
  all_goals rfl

/-- How many octets a text takes. -/
def length : List Char → Nat
  | [] => 0
  | c :: cs => width c + length cs

/-- The length in octets is known without writing them. -/
theorem length_encode (cs : List Char) : (encode cs).length = length cs := by
  induction cs with
  | nil => rfl
  | cons c cs ih => simp [length_encodeChar, ih, length]

/-! ### Reading -/

/-- Why octets are not UTF-8. -/
inductive Fault where
  /-- The `blamed` octets from `index` on begin no character. -/
  | invalid (blamed index : Nat)
  /-- The octets from `index` on are the beginning of a character that is cut off. -/
  | incomplete (index : Nat)
  deriving DecidableEq, Repr

/-- The fault in words. -/
def Fault.message : Fault → String
  | .invalid blamed index => s!"invalid utf-8 sequence of {blamed} bytes from index {index}"
  | .incomplete index => s!"incomplete utf-8 byte sequence from index {index}"

/-- The low six bits of a continuation octet. -/
def continuation? (b : UInt8) : Option Nat :=
  if 0x80 ≤ b.toNat ∧ b.toNat ≤ 0xBF then some (b.toNat - 0x80) else none

/-- The octets that may follow `lead` in a sequence of three. They keep out
overlong forms and surrogates. -/
def secondOfThree (lead next : Nat) : Bool :=
  if lead = 0xE0 then 0xA0 ≤ next && next ≤ 0xBF
  else if lead = 0xED then 0x80 ≤ next && next ≤ 0x9F
  else 0x80 ≤ next && next ≤ 0xBF

/-- The octets that may follow `lead` in a sequence of four. They keep out
overlong forms and what lies past the last code point. -/
def secondOfFour (lead next : Nat) : Bool :=
  if lead = 0xF0 then 0x90 ≤ next && next ≤ 0xBF
  else if lead = 0xF4 then 0x80 ≤ next && next ≤ 0x8F
  else 0x80 ≤ next && next ≤ 0xBF

/-- The text of octets that start at position `index` of the whole input. -/
def decodeFrom (index : Nat) : Bytes → Except Fault (List Char)
  | [] => .ok []
  | b :: rest =>
    let lead := b.toNat
    if lead < 0x80 then (decodeFrom (index + 1) rest).map (Char.ofNat lead :: ·)
    -- Up to 0xBF octets only continue a sequence; 0xC0 and 0xC1 could only start overlong ones.
    else if lead < 0xC2 then .error (.invalid 1 index)
    else if lead < 0xE0 then
      match rest with
      | [] => .error (.incomplete index)
      | b₁ :: rest =>
        match continuation? b₁ with
        | none => .error (.invalid 1 index)
        | some x =>
          (decodeFrom (index + 2) rest).map (Char.ofNat ((lead - 0xC0) * 0x40 + x) :: ·)
    else if lead < 0xF0 then
      match rest with
      | [] => .error (.incomplete index)
      | b₁ :: rest =>
        if secondOfThree lead b₁.toNat then
          match rest with
          | [] => .error (.incomplete index)
          | b₂ :: rest =>
            match continuation? b₂ with
            | none => .error (.invalid 2 index)
            | some y =>
              (decodeFrom (index + 3) rest).map
                (Char.ofNat ((lead - 0xE0) * 0x1000 + (b₁.toNat - 0x80) * 0x40 + y) :: ·)
        else .error (.invalid 1 index)
    else if lead < 0xF5 then
      match rest with
      | [] => .error (.incomplete index)
      | b₁ :: rest =>
        if secondOfFour lead b₁.toNat then
          match rest with
          | [] => .error (.incomplete index)
          | b₂ :: rest =>
            match continuation? b₂ with
            | none => .error (.invalid 2 index)
            | some y =>
              match rest with
              | [] => .error (.incomplete index)
              | b₃ :: rest =>
                match continuation? b₃ with
                | none => .error (.invalid 3 index)
                | some z =>
                  (decodeFrom (index + 4) rest).map
                    (Char.ofNat ((lead - 0xF0) * 0x40000 + (b₁.toNat - 0x80) * 0x1000
                      + y * 0x40 + z) :: ·)
        else .error (.invalid 1 index)
    -- From 0xF5 on, every sequence would lie past the last code point.
    else .error (.invalid 1 index)

/-- The text of octets. -/
def decode (bs : Bytes) : Except Fault (List Char) := decodeFrom 0 bs

/-- Whether octets are the form of some text. -/
def isValid (bs : Bytes) : Bool := (decode bs).isOk

end Utf8

end ReporterRegistry

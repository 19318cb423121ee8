import ReporterRegistry.Json.Value
import ReporterRegistry.Text.Decimal
import ReporterRegistry.Text.Hex

/-!
# Reading JSON

A reader of the whole grammar: any order and repetition of members, any depth,
numbers of any size. What a particular document may hold is decided afterwards,
on the tree. A reader takes a text and gives a value and the rest of the text;
`Json.parse?` allows nothing but blanks around the value.
-/

namespace ReporterRegistry

namespace Json

/-- Blanks: space, tab, line feed, carriage return. -/
def isBlank (c : Char) : Bool := c = ' ' || c = '\t' || c = '\n' || c = '\r'

/-- The text after its leading blanks. -/
def skipBlanks (cs : List Char) : List Char := cs.dropWhile isBlank

/-! ### Strings -/

/-- The value of a hexadecimal digit. -/
def hexValue? (c : Char) : Option Nat :=
  if c.toNat < 128 then Hex.digit? (UInt8.ofNat c.toNat) else none

/-- The number of four hexadecimal digits. -/
def fourHex? (a b c d : Char) : Option Nat := do
  let w ← hexValue? a
  let x ← hexValue? b
  let y ← hexValue? c
  let z ← hexValue? d
  return ((w * 16 + x) * 16 + y) * 16 + z

/-- Whether a code is a leading surrogate. -/
def isLeading (n : Nat) : Bool := 0xD800 ≤ n && n < 0xDC00

/-- Whether a code is a trailing surrogate. -/
def isTrailing (n : Nat) : Bool := 0xDC00 ≤ n && n < 0xE000

/-- The place that an escaped code stands for on its own. -/
def ofCode (n : Nat) : JsonChar :=
  if isLeading n || isTrailing n then .surrogate n else .char (Char.ofNat n)

/-- The character of a letter after a backslash. -/
def ofEscape? : Char → Option Char
  | '"' => some '"'
  | '\\' => some '\\'
  | '/' => some '/'
  | 'b' => some '\x08'
  | 'f' => some '\x0c'
  | 'n' => some '\n'
  | 'r' => some '\r'
  | 't' => some '\t'
  | _ => none

/-- The places of a string up to its closing quote, each escape on its own. -/
def scanString : List Char → Option (List JsonChar × List Char)
  | [] => none
  | '"' :: rest => some ([], rest)
  | '\\' :: 'u' :: a :: b :: c :: d :: rest =>
    match fourHex? a b c d, scanString rest with
    | some n, some (places, rest) => some (ofCode n :: places, rest)
    | _, _ => none
  | '\\' :: e :: rest =>
    match ofEscape? e, scanString rest with
    | some c, some (places, rest) => some (.char c :: places, rest)
    | _, _ => none
  | c :: rest =>
    if c.toNat < 0x20 ∨ c = '\\' then none
    else (scanString rest).map fun (places, rest) => (.char c :: places, rest)

/-- Join neighbouring halves of surrogate pairs. -/
def joinPairs : List JsonChar → JsonText
  | .surrogate h :: .surrogate l :: rest =>
    if isLeading h && isTrailing l then
      .char (Char.ofNat (0x10000 + (h - 0xD800) * 0x400 + (l - 0xDC00))) :: joinPairs rest
    else .surrogate h :: joinPairs (.surrogate l :: rest)
  | place :: rest => place :: joinPairs rest
  | [] => []

/-- A string whose opening quote has been read. -/
def string? (cs : List Char) : Option (JsonText × List Char) :=
  (scanString cs).map fun (places, rest) => (joinPairs places, rest)

/-! ### Numbers -/

/-- The digits before the point: a lone zero, or digits that start with none. -/
def whole? (cs : List Char) : Option (Nat × List Char) :=
  match Decimal.span cs with
  | ([], _) => none
  | (0 :: _ :: _, _) => none
  | (ds, rest) => some (Decimal.value ds, rest)

/-- The digits after a point, if there is one. -/
def fraction? : List Char → Option (List Nat × List Char)
  | '.' :: rest =>
    match Decimal.span rest with
    | ([], _) => none
    | (ds, rest) => some (ds, rest)
  | cs => some ([], cs)

/-- The digits of an exponent after its sign. -/
def exponentDigits? (negative : Bool) (cs : List Char) : Option (Option Int × List Char) :=
  match Decimal.span cs with
  | ([], _) => none
  | (ds, rest) =>
    let e := Int.ofNat (Decimal.value ds)
    some (some (if negative then -e else e), rest)

/-- An exponent, if there is one. -/
def exponent? : List Char → Option (Option Int × List Char)
  | e :: rest =>
    if e = 'e' ∨ e = 'E' then
      match rest with
      | '+' :: rest => exponentDigits? false rest
      | '-' :: rest => exponentDigits? true rest
      | _ => exponentDigits? false rest
    else some (none, e :: rest)
  | [] => some (none, [])

/-- A number after its sign. -/
def unsigned? (negative : Bool) (cs : List Char) : Option (JsonNumber × List Char) := do
  let (whole, rest) ← whole? cs
  let (fraction, rest) ← fraction? rest
  let (exponent, rest) ← exponent? rest
  return (⟨negative, whole, fraction, exponent⟩, rest)

/-- A number. -/
def number? : List Char → Option (JsonNumber × List Char)
  | '-' :: rest => unsigned? true rest
  | cs => unsigned? false cs

/-! ### Values

Every step of a reader takes at least one character, so the number of characters
bounds the number of steps. -/

mutual

/-- A value after any blanks, in at most `fuel` steps. -/
def value? : Nat → List Char → Option (Json × List Char)
  | 0, _ => none
  | fuel + 1, cs =>
    match skipBlanks cs with
    | 'n' :: 'u' :: 'l' :: 'l' :: rest => some (.null, rest)
    | 't' :: 'r' :: 'u' :: 'e' :: rest => some (.bool true, rest)
    | 'f' :: 'a' :: 'l' :: 's' :: 'e' :: rest => some (.bool false, rest)
    | '"' :: rest => (string? rest).map fun (content, rest) => (.string content, rest)
    | '[' :: rest =>
      match skipBlanks rest with
      | ']' :: rest => some (.array [], rest)
      | rest => (items? fuel rest).map fun (items, rest) => (.array items, rest)
    | '\x7b' :: rest =>
      match skipBlanks rest with
      | '\x7d' :: rest => some (.object [], rest)
      | rest => (members? fuel rest).map fun (members, rest) => (.object members, rest)
    -- Nothing else starts a value but a sign or a digit.
    | rest => (number? rest).map fun (written, rest) => (.number written, rest)

/-- One or more items up to the closing bracket. -/
def items? : Nat → List Char → Option (List Json × List Char)
  | 0, _ => none
  | fuel + 1, cs => do
    let (item, rest) ← value? fuel cs
    match skipBlanks rest with
    | ',' :: rest =>
      let (items, rest) ← items? fuel rest
      return (item :: items, rest)
    | ']' :: rest => return ([item], rest)
    | _ => none

/-- One or more members up to the closing brace. -/
def members? : Nat → List Char → Option (List (JsonText × Json) × List Char)
  | 0, _ => none
  | fuel + 1, cs =>
    match skipBlanks cs with
    | '"' :: rest => do
      let (key, rest) ← string? rest
      match skipBlanks rest with
      | ':' :: rest =>
        let (value, rest) ← value? fuel rest
        match skipBlanks rest with
        | ',' :: rest =>
          let (members, rest) ← members? fuel rest
          return ((key, value) :: members, rest)
        | '\x7d' :: rest => return ([(key, value)], rest)
        | _ => none
      | _ => none
    | _ => none

end

/-- The value of characters with nothing but blanks around it. -/
def parseChars? (cs : List Char) : Option Json :=
  match value? (cs.length + 1) cs with
  | some (value, rest) => if rest.all isBlank then some value else none
  | none => none

/-- The value of a text. -/
def parse? (text : String) : Option Json := parseChars? text.toList

end Json

end ReporterRegistry

import ReporterRegistry.Json.Value
import ReporterRegistry.Text.Decimal
import ReporterRegistry.Text.Hex

/-!
# Writing JSON

`Json.compact` writes a value without any blanks. `Json.pretty` puts every item
and every member on a line of its own, indented by two spaces a level. Both
escape the quote, the backslash and control characters, the latter by their
short forms where there are any, and nothing else.
-/

namespace ReporterRegistry

namespace Json

/-- Four hexadecimal digits. -/
def fourDigits (n : Nat) : List Char :=
  [Hex.digitChar (n / 4096 % 16), Hex.digitChar (n / 256 % 16), Hex.digitChar (n / 16 % 16),
    Hex.digitChar (n % 16)]

/-- A character inside a string. -/
def escapeChar (c : Char) : List Char :=
  match c.toNat with
  | 0x22 => ['\\', '"']
  | 0x5C => ['\\', '\\']
  | 0x08 => ['\\', 'b']
  | 0x0C => ['\\', 'f']
  | 0x0A => ['\\', 'n']
  | 0x0D => ['\\', 'r']
  | 0x09 => ['\\', 't']
  | n => if n < 0x20 then '\\' :: 'u' :: fourDigits n else [c]

/-- A place of a string. -/
def escape : JsonChar → List Char
  | .char c => escapeChar c
  | .surrogate code => '\\' :: 'u' :: fourDigits code

/-- A string with its quotes. -/
def quote (content : JsonText) : List Char := '"' :: content.flatMap escape ++ ['"']

/-- A number. -/
def renderNumber (number : JsonNumber) : List Char :=
  (if number.negative then ['-'] else []) ++ Decimal.render number.whole
    ++ (if number.fraction = [] then [] else '.' :: number.fraction.map Decimal.digitChar)
    ++ match number.exponent with
      | none => []
      | some (.ofNat e) => 'e' :: Decimal.render e
      | some (.negSucc e) => 'e' :: '-' :: Decimal.render (e + 1)

mutual

/-- A value without blanks. -/
def compact : Json → List Char
  | .null => ['n', 'u', 'l', 'l']
  | .bool true => ['t', 'r', 'u', 'e']
  | .bool false => ['f', 'a', 'l', 's', 'e']
  | .number written => renderNumber written
  | .string content => quote content
  | .array items => '[' :: compactItems items
  | .object members => '\x7b' :: compactMembers members

/-- Items up to the closing bracket. -/
def compactItems : List Json → List Char
  | [] => [']']
  | [item] => compact item ++ [']']
  | item :: rest => compact item ++ ',' :: compactItems rest

/-- Members up to the closing brace. -/
def compactMembers : List (JsonText × Json) → List Char
  | [] => ['\x7d']
  | [(key, value)] => quote key ++ ':' :: compact value ++ ['\x7d']
  | (key, value) :: rest => quote key ++ ':' :: compact value ++ ',' :: compactMembers rest

end

/-- A line break and the indentation of a level. -/
def newline (level : Nat) : List Char := '\n' :: List.replicate (2 * level) ' '

mutual

/-- A value over several lines, inside `level` others. -/
def prettyAt (level : Nat) : Json → List Char
  | .array [] => ['[', ']']
  | .array items => '[' :: prettyItems (level + 1) items
  | .object [] => ['\x7b', '\x7d']
  | .object members => '\x7b' :: prettyMembers (level + 1) members
  | .null => ['n', 'u', 'l', 'l']
  | .bool true => ['t', 'r', 'u', 'e']
  | .bool false => ['f', 'a', 'l', 's', 'e']
  | .number written => renderNumber written
  | .string content => quote content

/-- Items, each on its line, up to the closing bracket on the line after them. -/
def prettyItems (level : Nat) : List Json → List Char
  | [] => newline (level - 1) ++ [']']
  | [item] => newline level ++ prettyAt level item ++ newline (level - 1) ++ [']']
  | item :: rest => newline level ++ prettyAt level item ++ ',' :: prettyItems level rest

/-- Members, each on its line, up to the closing brace on the line after them. -/
def prettyMembers (level : Nat) : List (JsonText × Json) → List Char
  | [] => newline (level - 1) ++ ['\x7d']
  | [(key, value)] =>
    newline level ++ quote key ++ ':' :: ' ' :: prettyAt level value ++ newline (level - 1)
      ++ ['\x7d']
  | (key, value) :: rest =>
    newline level ++ quote key ++ ':' :: ' ' :: prettyAt level value ++ ','
      :: prettyMembers level rest

end

/-- The text of a value without blanks. -/
def render (value : Json) : String := String.ofList (compact value)

/-- The text of a value over several lines. -/
def pretty (value : Json) : String := String.ofList (prettyAt 0 value)

end Json

end ReporterRegistry

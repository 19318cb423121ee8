import ReporterRegistry.Text.Hex

/-!
# UUID text

A 128-bit number is written as 32 lower-case hexadecimal digits in groups of
8, 4, 4, 4 and 12. Reading takes digits of either case in one of four shapes:
the digits alone, the groups, the groups in braces, or the groups after
`urn:uuid:`. What is refused is diagnosed by looking at the text again: first a
stray character, then the number of groups, then their lengths.

All lengths and positions count octets.
-/

namespace ReporterRegistry

namespace Uuid

/-- Why a text is not a UUID. -/
inductive Fault where
  /-- No shape has this many octets. -/
  | length (found : Nat)
  /-- A character that is neither a digit nor a hyphen. -/
  | character (found : Char) (index : Nat)
  /-- There are not five groups. -/
  | groupCount (found : Nat)
  /-- A group has the wrong length. -/
  | groupLength (group expected found : Nat)
  deriving DecidableEq, Repr

/-- The fault in words. The character is shown between backquotes. -/
def Fault.message : Fault → String
  | .length found => s!"invalid length: found {found}"
  | .character found index =>
    "invalid character: found " ++ String.ofList ['\x60', found, '\x60'] ++ s!" at {index}"
  | .groupCount found => s!"invalid group count: expected 5, found {found}"
  | .groupLength group expected found =>
    s!"invalid group length in group {group}: expected {expected}, found {found}"

/-! ### Writing -/

/-- The lengths of the groups. -/
def groups : List Nat := [8, 4, 4, 4, 12]

/-- Cut a text into pieces of the given lengths and join them with hyphens. -/
def hyphenate : List Nat → List Char → List Char
  | [], _ => []
  | [n], cs => cs.take n
  | n :: ns, cs => cs.take n ++ '-' :: hyphenate ns (cs.drop n)

/-- A number in the grouped form. -/
def render (value : BitVec 128) : List Char :=
  hyphenate groups (Hex.encode (Bytes.ofNatBE 16 value.toNat))

/-! ### Reading -/

/-- The number written by 32 digits. -/
def ofDigits? (cs : List Char) : Option (BitVec 128) :=
  if cs.length = 32 && cs.all Hex.isDigit then
    match Hex.decode (Utf8.encode cs) with
    | .ok bs => some (BitVec.ofNat 128 bs.toNat)
    | .error _ => none
  else none

/-- The digits of a grouped text, if its hyphens are where they belong. -/
def ungroup? : List Nat → List Char → Option (List Char)
  | [], _ => none
  | [n], cs => if cs.length = n then some cs else none
  | n :: ns, cs =>
    match cs.drop n with
    | '-' :: rest => (ungroup? ns rest).map (cs.take n ++ ·)
    | _ => none

/-- The number written by a grouped text. -/
def ofGroups? (cs : List Char) : Option (BitVec 128) := (ungroup? groups cs).bind ofDigits?

/-- Drop a marker at the front of a text; letter case is ignored. -/
def afterMarker? : List Char → List Char → Option (List Char)
  | [], cs => some cs
  | m :: ms, c :: cs => if c.toLower = m then afterMarker? ms cs else none
  | _ :: _, [] => none

/-- The marker of the URN form. -/
def urn : List Char := "urn:uuid:".toList

/-- The inside of a text in braces. -/
def inBraces? : List Char → Option (List Char)
  | '\x7b' :: rest =>
    match rest.getLast? with
    | some '\x7d' => some rest.dropLast
    | _ => none
  | _ => none

/-- The part of a text that has to be in the grouped form, chosen by the length
of the whole and what wraps it. -/
def grouped? (cs : List Char) : Option (List Char) :=
  match Utf8.length cs with
  | 36 => some cs
  | 38 => inBraces? cs
  | 45 => afterMarker? urn cs
  | _ => none

/-! ### Diagnosis -/

/-- Look for the first character that is neither a digit nor a hyphen, and
collect the positions of the hyphens. `start` octets stand in front of the text,
and the scan has reached position `index` of it. -/
def hyphens (start index : Nat) : List Char → Except Fault (List Nat)
  | [] => .ok []
  | c :: rest =>
    if c = '-' then (hyphens start (index + 1) rest).map (index :: ·)
    else if Hex.isDigit c then hyphens start (index + 1) rest
    else .error (.character c (start + index))

/-- The first group whose length is wrong, given the hyphens and where the
groups have to start. -/
def wrongGroup? : Nat → Nat → List Nat → List Nat → Option Fault
  | group, start, n :: ns, h :: hs =>
    if h = start + n then wrongGroup? (group + 1) (start + n + 1) ns hs
    else some (.groupLength group n (h - start))
  | _, _, _, _ => none

/-- What is wrong with a text of `size` octets whose part after `start` octets
is to be grouped. `plain` says that nothing but a hyphen shows that the grouped
form was meant. -/
def diagnosePart (size start : Nat) (plain : Bool) (cs : List Char) : Fault :=
  match hyphens start 0 cs with
  | .error fault => fault
  | .ok positions =>
    if plain && positions.isEmpty then .length size
    else if positions.length ≠ 4 then .groupCount (positions.length + 1)
    -- Four hyphens in the right places leave only the last group. Its length is counted to the end
    -- of the whole text, a closing brace included.
    else (wrongGroup? 0 0 groups positions).getD (.groupLength 4 12 (size - 24))

/-- What is wrong with a text that could have any form. -/
def diagnoseAny (cs : List Char) : Fault :=
  let size := Utf8.length cs
  if size = 0 ∨ 45 < size then .length size
  else
    match inBraces? cs with
    | some inner => diagnosePart size 1 false inner
    | none =>
      match afterMarker? urn cs with
      | some inner => diagnosePart size 9 false inner
      | none => diagnosePart size 0 true cs

/-- The number that a text writes. -/
def parse (cs : List Char) : Except Fault (BitVec 128) :=
  match grouped? cs with
  | some part =>
    match ofGroups? part with
    | some value => .ok value
    | none => .error (diagnosePart (Utf8.length part) 0 false part)
  | none =>
    match ofDigits? cs with
    | some value => .ok value
    | none => .error (diagnoseAny cs)

end Uuid

end ReporterRegistry

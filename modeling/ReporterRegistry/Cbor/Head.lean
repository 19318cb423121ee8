import ReporterRegistry.Cbor.Value

/-!
# Heads, strings and runs

The parts that every reader of CBOR is made of. `Head.read?` reads the head of an
item and accepts an argument of any width, as well as items of indefinite length;
it refuses the reserved forms. `content?` reads the octets of a string, whose
chunks may be of indefinite length themselves. `run?` reads what an array or a
map holds, given a reader for one of its elements.

Each of them gives what it read and the octets after it.
-/

namespace ReporterRegistry

namespace Cbor

/-- The head of an item. A length or a count of `none` opens an item of
indefinite length. -/
inductive Head where
  | unsigned (n : Nat)
  /-- The number `-1 - n`. -/
  | negative (n : Nat)
  | bytes (length : Option Nat)
  | text (length : Option Nat)
  | array (count : Option Nat)
  | map (count : Option Nat)
  | tag (number : Nat)
  | simple (number : Nat)
  /-- A floating-point number. Nothing depends on which one. -/
  | float
  /-- The end of an item of indefinite length. -/
  | close
  deriving DecidableEq, Repr

/-- So many octets, and those after them. -/
def split? (n : Nat) (bs : Bytes) : Option (Bytes × Bytes) :=
  if n ≤ bs.length then some (bs.take n, bs.drop n) else none

namespace Head

/-- How many octets of argument follow the first octet of a head. -/
def argumentLength? (info : Nat) : Option Nat :=
  match info with
  | 24 => some 1
  | 25 => some 2
  | 26 => some 4
  | 27 => some 8
  | _ => none

/-- The head of a kind without an argument, which opens or closes an item of
indefinite length. -/
def ofOpen? (major : Nat) : Option Head :=
  match major with
  | 2 => some (.bytes none)
  | 3 => some (.text none)
  | 4 => some (.array none)
  | 5 => some (.map none)
  | 7 => some .close
  | _ => none

/-- The head of a kind with an argument, given how the argument was written. -/
def ofArgument (major info argument : Nat) : Head :=
  match major with
  | 0 => .unsigned argument
  | 1 => .negative argument
  | 2 => .bytes (some argument)
  | 3 => .text (some argument)
  | 4 => .array (some argument)
  | 5 => .map (some argument)
  | 6 => .tag argument
  | _ => if info ≤ 24 then .simple argument else .float

/-- The head that octets start with. -/
def read? : Bytes → Option (Head × Bytes)
  | [] => none
  | b :: rest =>
    let major := b.toNat / 32
    let info := b.toNat % 32
    -- Small arguments stand in the octet itself; 28, 29 and 30 are reserved.
    if info < 24 then some (ofArgument major info info, rest)
    else if info = 31 then (ofOpen? major).map (·, rest)
    else do
      let size ← argumentLength? info
      let (argument, rest) ← split? size rest
      return (ofArgument major info argument.toNat, rest)

/-- The length of a byte string. -/
def bytesLength? : Head → Option (Option Nat)
  | .bytes length => some length
  | _ => none

/-- The length of a text string. -/
def textLength? : Head → Option (Option Nat)
  | .text length => some length
  | _ => none

end Head

/-! ### Strings -/

/-- The chunks of a string of indefinite length, of which `level` are still to be
closed. There is one step at most for every octet of `steps`. -/
def chunks? (lengthOf? : Head → Option (Option Nat)) :
    Bytes → Nat → Bytes → Option (List Bytes × Bytes)
  | [], _, _ => none
  | _ :: steps, level, bs => do
    let (head, rest) ← Head.read? bs
    if head = .close then
      if level ≤ 1 then return ([], rest) else chunks? lengthOf? steps (level - 1) rest
    else
      match ← lengthOf? head with
      | none => chunks? lengthOf? steps (level + 1) rest
      | some length =>
        let (chunk, rest) ← split? length rest
        let (chunks, rest) ← chunks? lengthOf? steps level rest
        return (chunk :: chunks, rest)

/-- The content of a string after its head, in chunks. A string of definite length
is a single chunk. Every head of a chunk takes an octet, so the octets themselves
are steps enough. -/
def content? (lengthOf? : Head → Option (Option Nat)) (length : Option Nat) (bs : Bytes) :
    Option (List Bytes × Bytes) :=
  match length with
  | some n => (split? n bs).map fun (chunk, rest) => ([chunk], rest)
  | none => chunks? lengthOf? bs 1 bs

/-- Octets as text. -/
def toText? (bs : Bytes) : Option String :=
  match Utf8.decode bs with
  | .ok cs => some (String.ofList cs)
  | .error _ => none

/-! ### Runs -/

/-- The octet that closes an item of indefinite length. -/
def closeOctet : UInt8 := 0xFF

/-- So many elements. -/
def times? {α : Type} (read : Bytes → Option (α × Bytes)) :
    Nat → Bytes → Option (List α × Bytes)
  | 0, bs => some ([], bs)
  | n + 1, bs => do
    let (element, rest) ← read bs
    let (elements, rest) ← times? read n rest
    return (element :: elements, rest)

/-- The elements up to the octet that closes a run. There is one step at most for
every octet of `steps`. -/
def untilClosed? {α : Type} (read : Bytes → Option (α × Bytes)) :
    Bytes → Bytes → Option (List α × Bytes)
  | [], _ => none
  | _ :: steps, bs =>
    if bs.head? = some closeOctet then some ([], bs.drop 1)
    else do
      let (element, rest) ← read bs
      let (elements, rest) ← untilClosed? read steps rest
      return (element :: elements, rest)

/-- So many elements, or all up to the octet that closes the run. Every element takes
an octet, so the octets themselves are steps enough. -/
def run? {α : Type} (read : Bytes → Option (α × Bytes)) (count : Option Nat) (bs : Bytes) :
    Option (List α × Bytes) :=
  match count with
  | some n => times? read n bs
  | none => untilClosed? read bs bs

end Cbor

end ReporterRegistry

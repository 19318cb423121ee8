import ReporterRegistry.Bytes

/-!
# The SHA-2 construction

SHA-256 and SHA-512 are one algorithm over words of two widths. A `Sha2.Variant`
holds what differs: the word width, the rotations, the round constants and the
starting state. `Sha2.Variant.digest` pads a message, folds the compression
function over its blocks and writes the eight words of the final state.
-/

namespace ReporterRegistry

namespace Sha2

/-- The chaining state: eight words. -/
structure State (w : Nat) where
  a : BitVec w
  b : BitVec w
  c : BitVec w
  d : BitVec w
  e : BitVec w
  f : BitVec w
  g : BitVec w
  h : BitVec w
  deriving DecidableEq, Repr

/-- Two rotations and a last step, exclusive-ored together. In a schedule
function the last step is a shift, in a round function a rotation. -/
structure Mix where
  first : Nat
  second : Nat
  last : Nat
  deriving DecidableEq, Repr

/-- The parameters that tell the members of the family apart. -/
structure Variant (w : Nat) where
  /-- Octets in a word. -/
  wordSize : Nat
  start : State w
  constants : List (BitVec w)
  /-- Mixing of the first working word in a round. -/
  sumA : Mix
  /-- Mixing of the fifth working word in a round. -/
  sumE : Mix
  /-- Mixing of the word fifteen places back in the schedule. -/
  far : Mix
  /-- Mixing of the word two places back in the schedule. -/
  near : Mix

variable {w : Nat}

/-- Mixing whose last step is a rotation. -/
def Mix.rotating (m : Mix) (x : BitVec w) : BitVec w :=
  x.rotateRight m.first ^^^ x.rotateRight m.second ^^^ x.rotateRight m.last

/-- Mixing whose last step is a shift. -/
def Mix.shifting (m : Mix) (x : BitVec w) : BitVec w :=
  x.rotateRight m.first ^^^ x.rotateRight m.second ^^^ (x >>> m.last)

/-- Where `x` has a one, the bit of `y`, else the bit of `z`. -/
def choose (x y z : BitVec w) : BitVec w := (x &&& y) ^^^ (~~~x &&& z)

/-- The bit that at least two of the three words have. -/
def majority (x y z : BitVec w) : BitVec w := (x &&& y) ^^^ (x &&& z) ^^^ (y &&& z)

/-- The word-wise sum of two states. -/
def State.add (s t : State w) : State w :=
  ⟨s.a + t.a, s.b + t.b, s.c + t.c, s.d + t.d, s.e + t.e, s.f + t.f, s.g + t.g, s.h + t.h⟩

/-- The words of a state in order. -/
def State.words (s : State w) : List (BitVec w) := [s.a, s.b, s.c, s.d, s.e, s.f, s.g, s.h]

namespace Variant

variable (v : Variant w)

/-- One round: the round constant and the schedule word enter the state. -/
def round (s : State w) (constant word : BitVec w) : State w :=
  let t₁ := s.h + v.sumE.rotating s.e + choose s.e s.f s.g + constant + word
  let t₂ := v.sumA.rotating s.a + majority s.a s.b s.c
  ⟨t₁ + t₂, s.a, s.b, s.c, s.d + t₁, s.e, s.f, s.g⟩

/-- The schedule word that follows a window of sixteen. -/
def extend (window : List (BitVec w)) : BitVec w :=
  v.near.shifting (window.getD 14 0) + window.getD 9 0
    + v.far.shifting (window.getD 1 0) + window.getD 0 0

/-- Run the rounds of the remaining constants. The window slides over the
schedule: its first word enters the round, the next word is appended. -/
def rounds : List (BitVec w) → List (BitVec w) → State w → State w
  | [], _, s => s
  | k :: ks, window, s =>
    rounds ks (window.drop 1 ++ [v.extend window]) (v.round s k (window.getD 0 0))

/-- The compression function. -/
def compress (s : State w) (block : List (BitVec w)) : State w :=
  s.add (v.rounds v.constants block s)

/-- A message followed by a one bit, zeros, and its length in bits over two
words, filling a whole number of blocks of sixteen words. -/
def pad (message : Bytes) : Bytes :=
  let block := 16 * v.wordSize
  -- The octet with the one bit and the length have to fit behind the message.
  let used := message.length + 1 + 2 * v.wordSize
  let zeros := (block - used % block) % block
  message ++ 0x80 :: List.replicate zeros 0
    ++ Bytes.ofNatBE (2 * v.wordSize) (8 * message.length)

/-- The words of a block. -/
def wordsOf (block : Bytes) : List (BitVec w) :=
  (Bytes.chunks (v.wordSize - 1) block).map fun word => BitVec.ofNat w word.toNat

/-- The octets of a final state. -/
def output (s : State w) : Bytes :=
  s.words.flatMap fun word => Bytes.ofNatBE v.wordSize word.toNat

/-- The hash of a message. -/
def digest (message : Bytes) : Bytes :=
  let blocks := Bytes.chunks (16 * v.wordSize - 1) (v.pad message)
  v.output (blocks.foldl (fun s block => v.compress s (v.wordsOf block)) v.start)

/-- A hash is as long as eight words, whatever the message. -/
@[simp] theorem length_digest (message : Bytes) : (v.digest message).length = 8 * v.wordSize := by
  simp only [digest, output, State.words, List.flatMap_cons, List.flatMap_nil, List.length_append,
    Bytes.length_ofNatBE, List.length_nil]
  omega

end Variant

end Sha2

end ReporterRegistry

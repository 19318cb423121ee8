import ReporterRegistry.Bytes

/-!
# Keccak-256

The sponge over 25 lanes of 64 bits, with 136 octets absorbed at a time and the
padding that marks the message's end by `0x01`. Lane `(x, y)` of the state is
the word at index `x + 5 * y`.
-/

namespace ReporterRegistry

namespace Keccak256

/-- The state: 25 lanes. -/
abbrev Lanes := Array UInt64

/-- The lane at an index. -/
def lane (s : Lanes) (i : Nat) : UInt64 := s.getD i 0

/-- A word rotated left by `n` places, for `n` below 64. -/
def rotateLeft (x : UInt64) (n : Nat) : UInt64 :=
  if n = 0 then x else (x <<< UInt64.ofNat n) ||| (x >>> UInt64.ofNat (64 - n))

/-- How far each lane is rotated. -/
def offsets : List Nat := [
  0, 1, 62, 28, 27,
  36, 44, 6, 55, 20,
  3, 10, 43, 25, 39,
  41, 45, 15, 21, 8,
  18, 2, 61, 56, 14]

/-- The words added to the first lane, one a round. -/
def roundConstants : List UInt64 := [
  0x0000000000000001, 0x0000000000008082, 0x800000000000808a, 0x8000000080008000,
  0x000000000000808b, 0x0000000080000001, 0x8000000080008081, 0x8000000000008009,
  0x000000000000008a, 0x0000000000000088, 0x0000000080008009, 0x000000008000000a,
  0x000000008000808b, 0x800000000000008b, 0x8000000000008089, 0x8000000000008003,
  0x8000000000008002, 0x8000000000000080, 0x000000000000800a, 0x800000008000000a,
  0x8000000080008081, 0x8000000000008080, 0x0000000080000001, 0x8000000080008008]

/-- The parity of a column. -/
def column (s : Lanes) (x : Nat) : UInt64 :=
  lane s x ^^^ lane s (x + 5) ^^^ lane s (x + 10) ^^^ lane s (x + 15) ^^^ lane s (x + 20)

/-- Add to every lane the parities of two neighbouring columns. -/
def mixColumns (s : Lanes) : Lanes :=
  let parities := (List.range 5).map (column s)
  let parity := fun x => parities.getD (x % 5) 0
  Array.ofFn fun (i : Fin 25) =>
    lane s i ^^^ parity (i + 4) ^^^ rotateLeft (parity (i + 1)) 1

/-- Rotate every lane and move it to its new place: lane `(x, y)` is taken from
`(x + 3 * y, x)`. -/
def rotateAndMove (s : Lanes) : Lanes :=
  Array.ofFn fun (i : Fin 25) =>
    let x := i.val % 5
    let y := i.val / 5
    let source := (x + 3 * y) % 5 + 5 * x
    rotateLeft (lane s source) (offsets.getD source 0)

/-- Combine every lane with the two that follow it in its row. -/
def mixRows (s : Lanes) : Lanes :=
  Array.ofFn fun (i : Fin 25) =>
    let x := i.val % 5
    let row := 5 * (i.val / 5)
    lane s i ^^^ (~~~(lane s (row + (x + 1) % 5)) &&& lane s (row + (x + 2) % 5))

/-- One round. -/
def round (s : Lanes) (constant : UInt64) : Lanes :=
  let t := mixRows (rotateAndMove (mixColumns s))
  t.modify 0 (· ^^^ constant)

/-- The permutation. -/
def permute (s : Lanes) : Lanes := roundConstants.foldl round s

/-- Octets absorbed at a time. -/
def rate : Nat := 136

/-- A message followed by `0x01`, zeros, and a last octet whose top bit is set. -/
def pad (message : Bytes) : Bytes :=
  let missing := rate - message.length % rate
  -- If one octet is missing, it is the first and the last of the padding.
  if missing = 1 then message ++ [0x81]
  else message ++ 0x01 :: List.replicate (missing - 2) 0 ++ [0x80]

/-- Add a block to the state and permute. -/
def absorb (s : Lanes) (block : Bytes) : Lanes :=
  let words := ((Bytes.chunks 7 block).map fun word => UInt64.ofNat word.toNatLE).toArray
  permute (Array.ofFn fun (i : Fin 25) => lane s i ^^^ lane words i)

/-- The hash of a message: the first four lanes of the final state. -/
def digest (message : Bytes) : Bytes :=
  let final := (Bytes.chunks (rate - 1) (pad message)).foldl absorb (Array.replicate 25 0)
  (List.range 4).flatMap fun i => Bytes.ofNatLE 8 (lane final i).toNat

@[simp] theorem length_digest (message : Bytes) : (digest message).length = 32 := by
  simp [digest, List.range, List.range.loop]

end Keccak256

end ReporterRegistry

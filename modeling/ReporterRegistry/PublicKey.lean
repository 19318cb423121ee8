import ReporterRegistry.InputError

/-!
# 32-byte keys

A `PublicKey` is any 32 octets: a parent key in a derivation, a program id, or a
derived address. It is written in base58. Being a key says nothing about lying
on the curve; that is a test of its own.
-/

namespace ReporterRegistry

/-- A 32-byte key. -/
structure PublicKey where
  bytes : Bytes
  length_bytes : bytes.length = 32
  deriving Repr

namespace PublicKey

instance : DecidableEq PublicKey := fun ⟨bs, _⟩ ⟨cs, _⟩ =>
  if h : bs = cs then .isTrue (by cases h; rfl)
  else .isFalse fun heq => h (congrArg bytes heq)

/-- The key of exactly 32 octets. -/
def ofBytes? (bs : Bytes) : Option PublicKey :=
  if h : bs.length = 32 then some ⟨bs, h⟩ else none

/-- The key whose octets are the low 32 of a number, least significant first. -/
def ofNatLE (n : Nat) : PublicKey := ⟨Bytes.ofNatLE 32 n, by simp⟩

/-- The all-zero key. -/
def zero : PublicKey := ⟨List.replicate 32 0, by simp⟩

/-- A key in base58. -/
def toBase58 (key : PublicKey) : String := String.ofList (Base58.encode key.bytes)

/-- A text that is no key, with the reason. -/
def refused (text reason : String) : InputError := .invalidValue .publicKey s!"{text}: {reason}"

/-- The key that a base58 text writes. -/
def parse (text : String) : Except InputError PublicKey :=
  match Base58.decodeText text with
  | .error fault => .error (refused text fault.message)
  | .ok bs =>
    match ofBytes? bs with
    | some key => .ok key
    | none => .error (refused text s!"expected 32 bytes, got {bs.length}")

/-- The key with its type's name in front, for diagnostics. -/
def describe (key : PublicKey) : String := s!"Pubkey({key.toBase58})"

/-- Order by octets, the first that differs deciding. -/
def compare (a b : PublicKey) : Ordering := List.compareLex Ord.compare a.bytes b.bytes

@[simp] theorem ofBytes?_bytes (key : PublicKey) : ofBytes? key.bytes = some key := by
  simp [ofBytes?, key.length_bytes]

end PublicKey

end ReporterRegistry

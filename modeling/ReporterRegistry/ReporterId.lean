import ReporterRegistry.InputError
import ReporterRegistry.Text.Uuid

/-!
# Reporter ids

A reporter is known by a 128-bit number that its creator supplies. It is shown
and read as a UUID and stored as 16 octets, most significant first.
-/

namespace ReporterRegistry

/-- A 128-bit reporter identifier. -/
structure ReporterId where
  value : BitVec 128
  deriving DecidableEq, Repr

namespace ReporterId

/-- The stored form. -/
def bytes (id : ReporterId) : Bytes := Bytes.ofNatBE 16 id.value.toNat

/-- The id of exactly 16 octets. -/
def ofBytes? (bs : Bytes) : Option ReporterId :=
  if bs.length = 16 then some ⟨BitVec.ofNat 128 bs.toNat⟩ else none

/-- The UUID text. -/
def display (id : ReporterId) : String := String.ofList (Uuid.render id.value)

/-- The UUID text with the type's name in front, for diagnostics. -/
def describe (id : ReporterId) : String := s!"ReporterId({id.display})"

/-- The id that a UUID text writes. -/
def parse (text : String) : Except InputError ReporterId :=
  match Uuid.parse text.toList with
  | .ok value => .ok ⟨value⟩
  | .error fault => .error (.invalidValue .reporterId s!"{text}: {fault.message}")

end ReporterId

end ReporterRegistry

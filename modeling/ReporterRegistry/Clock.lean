import ReporterRegistry.Reporter

/-!
# The clock

Time is a number of seconds that moves only when told to.
-/

namespace ReporterRegistry

/-- A change of the time. -/
inductive ClockChange where
  | set (time : Seconds)
  /-- Move on, wrapping around at 64 bits. -/
  | advance (span : Seconds)
  deriving DecidableEq, Repr

namespace ClockChange

/-- The time after a change. -/
def apply (now : Seconds) : ClockChange → Seconds
  | .set time => time
  | .advance span => now + span

/-- The time at the start and after each change. -/
def readings (now : Seconds) : List ClockChange → List Seconds
  | [] => [now]
  | change :: rest => now :: readings (change.apply now) rest

end ClockChange

end ReporterRegistry

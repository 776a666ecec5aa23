import StagedTables.Calendar.DateTime

/-! # The local zone

A date-time without an offset is in the zone that the program runs in.  The zone is known by what
its clocks show at each time; that a clock shows a time is looked up from there, by trying the
offset at that time and those found on the way, and a day to one side for a second answer.  Times
are in seconds from the start of year 1, those of the zone by its own clocks. -/
set_option autoImplicit false
namespace StagedTables.Calendar

structure LocalZone where
  /-- Seconds east of UTC at a time. -/
  offsetAt : Int → Int

namespace LocalZone

def utc : LocalZone := ⟨fun _ => 0⟩

def endOfTime : Int := 3652059 * secondsPerDay

def clock (zone : LocalZone) (time : Int) : Except Fault Int :=
  let shown := time + zone.offsetAt time
  if 0 ≤ shown ∧ shown < endOfTime then .ok shown
  else .error (.yearOutOfRange (signedYearOfDay (shown.fdiv secondsPerDay)))

def lead (zone : LocalZone) (time : Int) : Except Fault Int := do
  return (← zone.clock time) - time

/-- The time at which the clocks show `shown`: of two such times the one that `fold` tells, and
where they leave the time out, one before or after the gap. -/
def timeOf (zone : LocalZone) (shown : Int) (fold : Bool) : Except Fault Int := do
  let first := shown - (← zone.lead shown)
  let again ← zone.clock first
  let next ←
    if again = shown then zone.lead (if fold then first + secondsPerDay else first - secondsPerDay)
    else pure (again - first)
  let second := shown - next
  if first = second then return first
  if (← zone.clock second) = shown then return second
  if again = shown then return first
  return if fold then min first second else max first second

def offsetOf (zone : LocalZone) (d : DateTime) : Except Fault Offset := do
  let time ← zone.timeOf (d.localMicros / microsPerSecond : Nat) d.fold
  Offset.ofSeconds (zone.offsetAt time)

def fieldsAt (zone : LocalZone) (utc : DateTime) : Except Fault DateTime := do
  let offset ← Offset.ofSeconds (zone.offsetAt (utc.localMicros / microsPerSecond : Nat))
  DateTime.ofInstant (utc.localMicros + offset.micros)

end LocalZone

/-- The same instant in UTC.  A date-time whose zone has no offset for it is in the local zone; one
without a zone is first given the local one, by the offset at its instant. -/
def DateTime.toUtc (zone : LocalZone) (d : DateTime) : Except Fault DateTime :=
  match d.offset with
  | .raises error => .error (.zone error)
  | .gives (some _) => DateTime.ofInstant d.instant
  | .gives none => do
    let offset ← zone.offsetOf d
    let utc ← DateTime.ofInstant (d.localMicros - offset.micros)
    if d.zone = none then (zone.fieldsAt utc).map fun _ => utc else .ok utc

end StagedTables.Calendar

import StagedTables.Calendar.Date
import StagedTables.Foreign

/-! # Dates with times

A date and a time of day to the microsecond, and perhaps a zone.  A zone has a fixed offset from
UTC, or is an object of its own that is asked for the offset and may have none.  Of the two times
at which a clock that is set back shows the same, `fold` tells the later one.  The instant of a
date-time with an offset is the number of microseconds from the start of year 1 in UTC. -/
set_option autoImplicit false
namespace StagedTables.Calendar

structure TimeOfDay where
  hour : Fin 24
  minute : Fin 60
  second : Fin 60
  microsecond : Fin 1000000
  deriving DecidableEq, Repr

def secondsPerDay : Nat := 86400
def microsPerSecond : Nat := 1000000
def microsPerMinute : Nat := 60000000
def microsPerDay : Nat := 86400000000

namespace TimeOfDay

def midnight : TimeOfDay := ⟨0, 0, 0, 0⟩

def micros (time : TimeOfDay) : Nat :=
  ((time.hour * 60 + time.minute) * 60 + time.second) * microsPerSecond + time.microsecond

/-- The time of day a number of microseconds after midnight, whole days dropped. -/
def ofMicros (micros : Nat) : TimeOfDay :=
  let seconds := micros / microsPerSecond
  { hour := Fin.ofNat 24 (seconds / 3600)
    minute := Fin.ofNat 60 (seconds / 60)
    second := Fin.ofNat 60 seconds
    microsecond := Fin.ofNat 1000000 micros }

end TimeOfDay

/-- An offset from UTC in microseconds, less than a day either way. -/
structure Offset where
  micros : Int
  isOffset : -(microsPerDay : Int) < micros ∧ micros < microsPerDay
  deriving DecidableEq, Repr

def Offset.utc : Offset := ⟨0, by decide⟩

/-- A zone that is an object of its own, and what it says of one date-time. -/
structure Region where
  /-- The number of the object: two date-times share their zone if it is one object. -/
  id : Nat
  offset : Answer (Option Offset)
  /-- The offset that the same fields have with the other `fold`. -/
  otherOffset : Answer (Option Offset)
  shown : Answer String
  deriving DecidableEq, Repr

inductive Zone where
  | fixed (offset : Offset)
  | region (region : Region)
  deriving DecidableEq, Repr

def Zone.utc : Zone := .fixed .utc

structure DateTime where
  date : Date
  time : TimeOfDay
  zone : Option Zone
  fold : Bool
  deriving DecidableEq, Repr

inductive Fault where
  | yearOutOfRange (year : Int)
  | monthOutOfRange
  | dayOutOfRange
  | hourOutOfRange
  | minuteOutOfRange
  | secondOutOfRange
  | microsecondOutOfRange
  | offsetOutOfRange (micros : Int)
  | instantOutOfRange
  | zone (error : ForeignError)
  deriving DecidableEq, Repr

/-- The date with the given fields; the first field out of range is at fault. -/
def Date.make (year month day : Nat) : Except Fault Date :=
  if isDate : IsDate year month day then .ok ⟨year, month, day, isDate⟩
  else if ¬ (firstYear ≤ year ∧ year ≤ lastYear) then .error (.yearOutOfRange year)
  else if ¬ (1 ≤ month ∧ month ≤ 12) then .error .monthOutOfRange
  else .error .dayOutOfRange

def TimeOfDay.make (hour minute second microsecond : Nat) : Except Fault TimeOfDay :=
  if isHour : hour < 24 then
    if isMinute : minute < 60 then
      if isSecond : second < 60 then
        if isMicro : microsecond < 1000000 then
          .ok ⟨⟨hour, isHour⟩, ⟨minute, isMinute⟩, ⟨second, isSecond⟩, ⟨microsecond, isMicro⟩⟩
        else .error .microsecondOutOfRange
      else .error .secondOutOfRange
    else .error .minuteOutOfRange
  else .error .hourOutOfRange

def Offset.make (micros : Int) : Except Fault Offset :=
  if isOffset : -(microsPerDay : Int) < micros ∧ micros < microsPerDay then .ok ⟨micros, isOffset⟩
  else .error (.offsetOutOfRange micros)

def Offset.ofSeconds (seconds : Int) : Except Fault Offset :=
  Offset.make (seconds * microsPerSecond)

namespace DateTime

def withOffset (date : Date) (time : TimeOfDay) (offset : Offset) : DateTime :=
  ⟨date, time, some (.fixed offset), false⟩

def withoutZone (date : Date) (time : TimeOfDay) : DateTime := ⟨date, time, none, false⟩

def IsUtc (d : DateTime) : Prop := d.zone = some .utc ∧ d.fold = false

instance (d : DateTime) : Decidable d.IsUtc := inferInstanceAs (Decidable (_ ∧ _))

def offset (d : DateTime) : Answer (Option Offset) :=
  match d.zone with
  | none => .gives none
  | some (.fixed offset) => .gives (some offset)
  | some (.region region) => region.offset

def otherOffset (d : DateTime) : Answer (Option Offset) :=
  match d.zone with
  | some (.region region) => region.otherOffset
  | _ => d.offset

/-- Microseconds from the start of year 1 to the local fields, whatever the offset. -/
def localMicros (d : DateTime) : Nat :=
  d.date.dayNumber * microsPerDay + d.time.micros

/-- Microseconds from the start of year 1 in UTC; a missing offset counts as none. -/
def instant (d : DateTime) : Int :=
  match d.offset with
  | .gives (some offset) => d.localMicros - offset.micros
  | _ => d.localMicros

def ofInstant? (instant : Int) : Option DateTime :=
  if instant < 0 then none
  else
    let micros := instant.toNat
    (Date.ofDayNumber? (micros / microsPerDay)).map fun date =>
      .withOffset date (TimeOfDay.ofMicros (micros % microsPerDay)) .utc

def ofInstant (instant : Int) : Except Fault DateTime :=
  match ofInstant? instant with
  | some utc => .ok utc
  | none => .error .instantOutOfRange

end DateTime
end StagedTables.Calendar

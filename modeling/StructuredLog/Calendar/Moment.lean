import StructuredLog.Calendar.Date

/-!
Times of day, local and zoned date times, and durations, each with its fields in their ranges. In
a leap second the nanoseconds run on beyond the end of the second before it.
-/

namespace StructuredLog

structure Time where
  hour : Nat
  minute : Nat
  second : Nat
  /-- From 1 000 000 000 on in a leap second. -/
  nanos : Nat
  inRange : hour < 24 ∧ minute < 60 ∧ second < 60 ∧ nanos < 2000000000
  deriving DecidableEq, Repr

namespace Time

/-- The second as it is shown, 60 in a leap second after the fifty-ninth. -/
def shownSecond (t : Time) : Nat := t.second + t.nanos / 1000000000

def shownNanos (t : Time) : Nat := t.nanos % 1000000000

def secondOfDay (t : Time) : Nat := 3600 * t.hour + 60 * t.minute + t.second

end Time

structure LocalDateTime where
  date : Date
  time : Time
  deriving DecidableEq, Repr

/-- Seconds since the first of January 1970 at midnight. -/
def LocalDateTime.epochSecond (t : LocalDateTime) : Int :=
  86400 * (t.date.dayNumber - 719162) + t.time.secondOfDay

/-- An offset of less than a day, in seconds east of UTC. -/
structure UtcOffset where
  seconds : Int
  inRange : seconds.natAbs < 86400
  deriving DecidableEq, Repr

def UtcOffset.utc : UtcOffset := ⟨0, by decide⟩

/-- A local date and time with its offset. -/
structure ZonedDateTime where
  clock : LocalDateTime
  offset : UtcOffset
  deriving DecidableEq, Repr

/-- Seconds since the epoch and nanoseconds; equal for the same moment in two zones. -/
def ZonedDateTime.instant (t : ZonedDateTime) : Int × Nat :=
  (t.clock.epochSecond - t.offset.seconds, t.clock.time.nanos)

structure Duration where
  seconds : Nat
  nanos : Nat
  nanos_lt : nanos < 1000000000 := by decide
  deriving DecidableEq, Repr

end StructuredLog

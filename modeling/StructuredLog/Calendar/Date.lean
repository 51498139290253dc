/-!
Dates of the Gregorian calendar, extended to all years: a date is a day that its month has. Days
are counted from the first of January of the year 1, a Monday.
-/

namespace StructuredLog

namespace Date

def isLeap (year : Int) : Bool := year % 4 = 0 ∧ (year % 100 ≠ 0 ∨ year % 400 = 0)

def monthLengths (year : Int) : List Nat :=
  [31, if isLeap year then 29 else 28, 31, 30, 31, 30, 31, 31, 30, 31, 30, 31]

/-- Nothing but the months 1 to 12 has days. -/
def InRange (year : Int) (month day : Nat) : Prop :=
  1 ≤ month ∧ 1 ≤ day ∧ day ≤ (monthLengths year).getD (month - 1) 0

instance (year : Int) (month day : Nat) : Decidable (InRange year month day) :=
  inferInstanceAs (Decidable (_ ∧ _ ∧ _))

theorem length_monthLengths (year : Int) : (monthLengths year).length = 12 := rfl

theorem monthLengths_le (year : Int) : ∀ n ∈ monthLengths year, n ≤ 31 := by
  unfold monthLengths
  split <;> decide

theorem InRange.bounds {year : Int} {month day : Nat} (inRange : InRange year month day) :
    month ≤ 12 ∧ day ≤ 31 := by
  obtain ⟨-, started, ends⟩ := inRange
  rw [List.getD_eq_getElem?_getD] at ends
  cases found : (monthLengths year)[month - 1]? with
  | none =>
    rw [found] at ends
    exact absurd (Nat.le_trans started ends) (by decide)
  | some n =>
    obtain ⟨listed, eq⟩ := List.getElem?_eq_some_iff.mp found
    have longest := monthLengths_le year n (eq ▸ List.getElem_mem listed)
    rw [found, Option.getD_some] at ends
    rw [length_monthLengths] at listed
    omega

end Date

structure Date where
  year : Int
  month : Nat
  day : Nat
  inRange : Date.InRange year month day
  deriving DecidableEq, Repr

namespace Date

/-- Day of the year, from 1. -/
def ordinal (d : Date) : Nat := ((monthLengths d.year).take (d.month - 1)).foldr (· + ·) 0 + d.day

/-- Days before the first of January of a year. -/
def daysBefore (year : Int) : Int :=
  let y := year - 1
  365 * y + y / 4 - y / 100 + y / 400

def dayNumber (d : Date) : Int := daysBefore d.year + d.ordinal - 1

/-- Days since the last Monday, from 0 to 6. -/
def weekday (d : Date) : Nat := (d.dayNumber % 7).toNat

/-- Days since the last Sunday. -/
def weekdayFromSunday (d : Date) : Nat := (d.weekday + 1) % 7

/-- Number of the week in the year, where week 1 starts with the first day that is `since` days of
a week after its start. -/
def weekOfYear (d : Date) (since : Nat) : Nat := (d.ordinal + 6 - since) / 7

/-- A year has 53 weeks if it starts on a Thursday, or is a leap year and starts on a Wednesday. -/
def weeksIn (year : Int) : Nat :=
  let first := daysBefore year % 7
  if first = 3 ∨ first = 2 ∧ isLeap year then 53 else 52

/-- Year and number of the week, which belongs to the year that holds its Thursday. -/
def isoWeek (d : Date) : Int × Nat :=
  let week : Int := (d.ordinal - (d.weekday + 1 : Int) + 10) / 7
  if week < 1 then (d.year - 1, weeksIn (d.year - 1))
  else if weeksIn d.year < week then (d.year + 1, 1)
  else (d.year, week.toNat)

def quarter (d : Date) : Nat := (d.month - 1) / 3 + 1

end Date

end StructuredLog

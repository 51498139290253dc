/-!
Date patterns with percent directives. A pattern is read as a list of items; a directive that stands
for several is read as these. A pattern with an unknown or unfinished directive, or with a padding
mark before a directive that is no single number, has no reading.
-/

namespace StructuredLog.Calendar

inductive Field where
  | year
  | century
  | yearOfCentury
  | isoYear
  | isoYearOfCentury
  | quarter
  | month
  | day
  | weekFromSunday
  | weekFromMonday
  | isoWeek
  | daysFromSunday
  | dayFromMonday
  | ordinal
  | hour
  | hour12
  | minute
  | second
  | nanosecond
  | timestamp
  deriving DecidableEq, Repr

inductive Fill where
  | none
  | zero
  | space
  deriving DecidableEq, Repr

/-- How an offset is written: to the minute without colon, or with colons to the minute or second,
or the hours alone. -/
inductive OffsetForm where
  | minutes
  | colonMinutes
  | colonSeconds
  | hours
  deriving DecidableEq, Repr

inductive Item where
  | literal (c : Char)
  | number (field : Field) (fill : Fill)
  | monthName (long : Bool)
  | weekdayName (long : Bool)
  | halfDay (upper : Bool)
  /-- As many digits as needed of three, six and nine after a point, nothing for zero. -/
  | fraction
  | fixedFraction (point : Bool) (digits : Nat)
  | offset (form : OffsetForm)
  | zoneName
  /-- A whole date and time in the standard interchange form. -/
  | interchange
  /-- An offset form that can be read and not be written. -/
  | lenientOffset
  deriving DecidableEq, Repr

def clock (hours : Field) : List Item :=
  [.number hours .zero, .literal ':', .number .minute .zero, .literal ':', .number .second .zero]

/-- Directives of one letter. -/
def letter? : Char → Option (List Item)
  | 'A' => some [.weekdayName true]
  | 'a' => some [.weekdayName false]
  | 'B' => some [.monthName true]
  | 'b' => some [.monthName false]
  | 'h' => some [.monthName false]
  | 'C' => some [.number .century .zero]
  | 'c' => some ([.weekdayName false, .literal ' ', .monthName false, .literal ' ',
      .number .day .space, .literal ' '] ++ clock .hour ++ [.literal ' ', .number .year .zero])
  | 'D' => some [.number .month .zero, .literal '/', .number .day .zero, .literal '/',
      .number .yearOfCentury .zero]
  | 'd' => some [.number .day .zero]
  | 'e' => some [.number .day .space]
  | 'F' => some [.number .year .zero, .literal '-', .number .month .zero, .literal '-',
      .number .day .zero]
  | 'f' => some [.number .nanosecond .zero]
  | 'G' => some [.number .isoYear .zero]
  | 'g' => some [.number .isoYearOfCentury .zero]
  | 'H' => some [.number .hour .zero]
  | 'I' => some [.number .hour12 .zero]
  | 'j' => some [.number .ordinal .zero]
  | 'k' => some [.number .hour .space]
  | 'l' => some [.number .hour12 .space]
  | 'M' => some [.number .minute .zero]
  | 'm' => some [.number .month .zero]
  | 'n' => some [.literal '\n']
  | 'P' => some [.halfDay false]
  | 'p' => some [.halfDay true]
  | 'q' => some [.number .quarter .none]
  | 'R' => some [.number .hour .zero, .literal ':', .number .minute .zero]
  | 'r' => some (clock .hour12 ++ [.literal ' ', .halfDay true])
  | 'S' => some [.number .second .zero]
  | 's' => some [.number .timestamp .none]
  | 'T' => some (clock .hour)
  | 't' => some [.literal '\t']
  | 'U' => some [.number .weekFromSunday .zero]
  | 'u' => some [.number .dayFromMonday .none]
  | 'V' => some [.number .isoWeek .zero]
  | 'v' => some [.number .day .space, .literal '-', .monthName false, .literal '-',
      .number .year .zero]
  | 'W' => some [.number .weekFromMonday .zero]
  | 'w' => some [.number .daysFromSunday .none]
  | 'X' => some (clock .hour)
  | 'x' => some [.number .month .zero, .literal '/', .number .day .zero, .literal '/',
      .number .yearOfCentury .zero]
  | 'Y' => some [.number .year .zero]
  | 'y' => some [.number .yearOfCentury .zero]
  | 'Z' => some [.zoneName]
  | 'z' => some [.offset .minutes]
  | '+' => some [.interchange]
  | '%' => some [.literal '%']
  | _ => none

def fill? : Char → Option Fill
  | '-' => some .none
  | '0' => some .zero
  | '_' => some .space
  | _ => none

/-- The items of a directive after its percent sign, and what follows it. -/
def directive? : List Char → Option (List Item × List Char)
  | '.' :: '3' :: 'f' :: rest => some ([.fixedFraction true 3], rest)
  | '.' :: '6' :: 'f' :: rest => some ([.fixedFraction true 6], rest)
  | '.' :: '9' :: 'f' :: rest => some ([.fixedFraction true 9], rest)
  | '.' :: 'f' :: rest => some ([.fraction], rest)
  | '3' :: 'f' :: rest => some ([.fixedFraction false 3], rest)
  | '6' :: 'f' :: rest => some ([.fixedFraction false 6], rest)
  | '9' :: 'f' :: rest => some ([.fixedFraction false 9], rest)
  | ':' :: ':' :: ':' :: 'z' :: rest => some ([.offset .hours], rest)
  | ':' :: ':' :: 'z' :: rest => some ([.offset .colonSeconds], rest)
  | ':' :: 'z' :: rest => some ([.offset .colonMinutes], rest)
  | '#' :: 'z' :: rest => some ([.lenientOffset], rest)
  | mark :: rest =>
    match fill? mark, rest with
    | some fill, c :: rest =>
      match letter? c with
      | some [.number field _] => some ([.number field fill], rest)
      | _ => none
    | some _, [] => none
    | none, _ => (letter? mark).map (·, rest)
  | [] => none

theorem directive?_length {cs : List Char} {r : List Item × List Char}
    (h : directive? cs = some r) : r.2.length < cs.length := by
  unfold directive? at h
  split at h
  all_goals try (simp only [Option.some.injEq, reduceCtorEq] at h; subst h; simp +arith)
  case h_13 => cases h
  rename_i mark rest _ _ _ _ _ _ _ _ _ _ _
  split at h
  · split at h
    · simp only [Option.some.injEq] at h
      subst h
      simp +arith
    · simp at h
  · simp at h
  · simp only [Option.map_eq_some_iff] at h
    obtain ⟨_, _, rfl⟩ := h
    simp

/-- The items of a whole pattern. -/
def items? (cs : List Char) : Option (List Item) :=
  match cs with
  | [] => some []
  | c :: rest =>
    if c = '%' then
      match _h : directive? rest with
      | some (is, rest) => (items? rest).map (is ++ ·)
      | none => none
    else (items? rest).map (.literal c :: ·)
termination_by cs.length
decreasing_by
  · have := directive?_length _h
    simp only [List.length_cons] at this ⊢
    omega
  · simp

end StructuredLog.Calendar

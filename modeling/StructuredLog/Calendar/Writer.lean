import StructuredLog.Calendar.Directive
import StructuredLog.Calendar.Moment
import StructuredLog.Text.Digits

/-!
Writing dates and times by a pattern, and their standard texts. A pattern that asks for a part that
the value does not have, such as the hour of a date, cannot be written.
-/

namespace StructuredLog.Calendar

/-- What a pattern can draw on. -/
structure Parts where
  date : Option Date := none
  time : Option Time := none
  offset : Option UtcOffset := none

def monthNames : List String :=
  ["January", "February", "March", "April", "May", "June", "July", "August", "September",
   "October", "November", "December"]

def weekdayNames : List String :=
  ["Monday", "Tuesday", "Wednesday", "Thursday", "Friday", "Saturday", "Sunday"]

def spaceFill (width : Nat) (s : String) : String :=
  String.ofList (List.replicate (width - s.length) ' ') ++ s

/-- At least `width` characters; a sign counts as one of them and stands before filling zeros. -/
def signed (width : Nat) (fill : Fill) (always : Bool) (n : Int) : String :=
  let sign := if n < 0 then "-" else if always then "+" else ""
  let digits := toString n.natAbs
  match fill with
  | .none => sign ++ digits
  | .zero => sign ++ Text.zeroFill (width - sign.length) digits
  | .space => spaceFill width (sign ++ digits)

/-- Four digits, with a sign in a fifth place if the year has not four digits. -/
def yearText (fill : Fill) (year : Int) : String :=
  if 0 ≤ year ∧ year < 10000 then signed 4 fill false year else signed 5 fill true year

/-- Two places. The first is a digit of its own for numbers below a hundred; the number of a
century is taken as a byte, whose tens above nine continue in the order of character codes. -/
def twoPlaces (fill : Fill) (n : Nat) : String :=
  let ones := Char.ofNat ('0'.toNat + n % 10)
  let tens := Char.ofNat ('0'.toNat + n / 10)
  match fill with
  | .none => if n < 10 then String.ofList [ones] else String.ofList [tens, ones]
  | .zero => String.ofList [tens, ones]
  | .space => if n < 10 then String.ofList [' ', ones] else String.ofList [tens, ones]

def two (n : Nat) : String := twoPlaces .zero n

def dateField? (d : Date) (fill : Fill) : Field → Option String
  | .year => some (yearText fill d.year)
  | .century => some (twoPlaces fill (d.year / 100 % 256).toNat)
  | .yearOfCentury => some (twoPlaces fill (d.year % 100).toNat)
  | .isoYear => some (yearText fill d.isoWeek.1)
  | .isoYearOfCentury => some (twoPlaces fill (d.isoWeek.1 % 100).toNat)
  | .quarter => some (toString d.quarter)
  | .month => some (twoPlaces fill d.month)
  | .day => some (twoPlaces fill d.day)
  | .weekFromSunday => some (twoPlaces fill (d.weekOfYear d.weekdayFromSunday))
  | .weekFromMonday => some (twoPlaces fill (d.weekOfYear d.weekday))
  | .isoWeek => some (twoPlaces fill d.isoWeek.2)
  | .daysFromSunday => some (toString d.weekdayFromSunday)
  | .dayFromMonday => some (toString (d.weekday + 1))
  | .ordinal => some (signed 3 fill false d.ordinal)
  | _ => none

def hour12 (t : Time) : Nat := if t.hour % 12 = 0 then 12 else t.hour % 12

def timeField? (t : Time) (fill : Fill) : Field → Option String
  | .hour => some (twoPlaces fill t.hour)
  | .hour12 => some (twoPlaces fill (hour12 t))
  | .minute => some (twoPlaces fill t.minute)
  | .second => some (twoPlaces fill t.shownSecond)
  | .nanosecond => some (signed 9 fill false t.shownNanos)
  | _ => none

def numberText? (p : Parts) (fill : Fill) (field : Field) : Option String :=
  if field = .timestamp then do
    let clock : LocalDateTime := ⟨← p.date, ← p.time⟩
    return signed 9 fill false (clock.epochSecond - (p.offset.map (·.seconds)).getD 0)
  else (p.date.bind (dateField? · fill field)).or (p.time.bind (timeField? · fill field))

/-- A point and three, six or nine digits, as few as are exact; nothing for a whole second. -/
def fractionText (nanos : Nat) : String :=
  if nanos = 0 then ""
  else if nanos % 1000000 = 0 then "." ++ Text.padded 3 (nanos / 1000000)
  else if nanos % 1000 = 0 then "." ++ Text.padded 6 (nanos / 1000)
  else "." ++ Text.padded 9 nanos

/-- Seconds are rounded to minutes, and cut off from hours. -/
def offsetText (form : OffsetForm) (offset : UtcOffset) : String :=
  let sign := if offset.seconds < 0 then "-" else "+"
  let seconds := offset.seconds.natAbs
  let minutes := (seconds + 30) / 60
  match form with
  | .minutes => sign ++ two (minutes / 60) ++ two (minutes % 60)
  | .colonMinutes => sign ++ two (minutes / 60) ++ ":" ++ two (minutes % 60)
  | .colonSeconds =>
    sign ++ two (seconds / 3600) ++ ":" ++ two (seconds / 60 % 60) ++ ":" ++ two (seconds % 60)
  | .hours => sign ++ two (seconds / 3600)

/-- Hours and minutes, and seconds if there are any. -/
def zoneText (offset : UtcOffset) : String :=
  let seconds := offset.seconds.natAbs
  let sign := if offset.seconds < 0 then "-" else "+"
  sign ++ two (seconds / 3600) ++ ":" ++ two (seconds / 60 % 60) ++
    if seconds % 60 = 0 then "" else ":" ++ two (seconds % 60)

def dateText (d : Date) : String :=
  yearText .zero d.year ++ "-" ++ two d.month ++ "-" ++ two d.day

def timeText (t : Time) : String :=
  two t.hour ++ ":" ++ two t.minute ++ ":" ++ two t.shownSecond ++ fractionText t.shownNanos

def localText (t : LocalDateTime) : String := dateText t.date ++ "T" ++ timeText t.time

def zonedText (t : ZonedDateTime) : String :=
  localText t.clock ++ offsetText .colonMinutes t.offset

def nameText (long : Bool) (name : String) : String :=
  if long then name else String.ofList (name.toList.take 3)

def itemText? (p : Parts) : Item → Option String
  | .literal c => some (String.singleton c)
  | .number field fill => numberText? p fill field
  | .monthName long => do nameText long (← monthNames[(← p.date).month - 1]?)
  | .weekdayName long => do nameText long (← weekdayNames[(← p.date).weekday]?)
  | .halfDay upper => do
    return match decide ((← p.time).hour < 12), upper with
      | true, true => "AM"
      | true, false => "am"
      | false, true => "PM"
      | false, false => "pm"
  | .fraction => do fractionText (← p.time).shownNanos
  | .fixedFraction point digits => do
    let places := Text.padded 9 (← p.time).shownNanos
    (if point then "." else "") ++ String.ofList (places.toList.take digits)
  | .offset form => do offsetText form (← p.offset)
  | .zoneName => do zoneText (← p.offset)
  | .interchange => do zonedText ⟨⟨← p.date, ← p.time⟩, ← p.offset⟩
  | .lenientOffset => none

/-- The text of the parts under a pattern. -/
def text? (pattern : String) (p : Parts) : Option String := do
  let items ← items? pattern.toList
  String.join (← items.mapM (itemText? p))

end StructuredLog.Calendar

namespace StructuredLog

/-- Days if there are any, the time of day, and seven places of a second if they are not zero. -/
def Duration.text (d : Duration) : String :=
  let days := d.seconds / 86400
  let ticks := d.nanos / 100
  (if days = 0 then "" else toString days ++ ".") ++
  Calendar.two (d.seconds % 86400 / 3600) ++ ":" ++ Calendar.two (d.seconds % 3600 / 60) ++ ":" ++
  Calendar.two (d.seconds % 60) ++
  (if ticks = 0 then "" else "." ++ Text.padded 7 ticks)

end StructuredLog

import StructuredLog.Calendar.Writer
import StructuredLog.Proofs.Scalar.Integer
import StructuredLog.Text.Split

/-!
Durations written as days and a time of day, read back. A dot before the colons ends a count of days
and one after them starts a fraction, so that neither is taken for the other. What a text denotes is
the duration in whole ticks of 100 nanoseconds, and no text has another one of the same ticks.
-/

namespace StructuredLog.Duration

open Alphabet (decimal)

/-- Whole ticks of 100 nanoseconds; the rest is not written. -/
def ticks (d : Duration) : Nat := (d.seconds * 1000000000 + d.nanos) / 100

/-! ### Days and a time of day -/

structure Clock where
  days : Nat
  hours : Nat
  minutes : Nat
  seconds : Nat
  ticks : Nat
  hours_lt : hours < 24
  minutes_lt : minutes < 60
  seconds_lt : seconds < 60
  ticks_lt : ticks < 10000000

def Clock.total (c : Clock) : Nat :=
  (c.days * 86400 + c.hours * 3600 + c.minutes * 60 + c.seconds) * 10000000 + c.ticks

def clock (d : Duration) : Clock where
  days := d.seconds / 86400
  hours := d.seconds % 86400 / 3600
  minutes := d.seconds % 3600 / 60
  seconds := d.seconds % 60
  ticks := d.nanos / 100
  hours_lt := by omega
  minutes_lt := by omega
  seconds_lt := by omega
  ticks_lt := by have := d.nanos_lt; omega

theorem total_clock (d : Duration) : d.clock.total = d.ticks := by
  unfold Clock.total ticks
  dsimp only [clock]
  omega

/-! ### The form of the text -/

/-- A numeral that zeros fill up to a width. -/
structure Filled (width n : Nat) (ds : List Char) : Prop where
  length : ds.length = width
  mem_glyphs : ∀ d ∈ ds, d ∈ decimal.glyphs
  denoted_eq : decimal.denoted ds = n

inductive DaysWritten : Nat → List Char → Prop
  | none : DaysWritten 0 []
  | some {n ds} : 0 < n → decimal.Numeral n ds → DaysWritten n (ds ++ ['.'])

inductive FractionWritten : Nat → List Char → Prop
  | none : FractionWritten 0 []
  | some {n ds} : 0 < n → Filled 7 n ds → FractionWritten n ('.' :: ds)

/-- The form `[d.]hh:mm:ss[.fffffff]`. -/
inductive Clock.Written (c : Clock) : List Char → Prop
  | intro {days hours minutes seconds fraction} :
      DaysWritten c.days days → Filled 2 c.hours hours → Filled 2 c.minutes minutes →
      Filled 2 c.seconds seconds → FractionWritten c.ticks fraction →
      Written c ((days ++ hours) ++ ':' :: (minutes ++ ':' :: (seconds ++ fraction)))

/-! ### Reading -/

/-- Hours, or days and hours with a dot between them, in seconds. -/
def readFront? (cs : List Char) : Option Nat :=
  match Text.split '.' cs with
  | [hours] => some (decimal.denoted hours * 3600)
  | [days, hours] => some (decimal.denoted days * 86400 + decimal.denoted hours * 3600)
  | _ => none

/-- Seconds, or seconds and a fraction with a dot between them, in ticks. -/
def readBack? (cs : List Char) : Option Nat :=
  match Text.split '.' cs with
  | [seconds] => some (decimal.denoted seconds * 10000000)
  | [seconds, fraction] => some (decimal.denoted seconds * 10000000 + decimal.denoted fraction)
  | _ => none

/-- The ticks that a text denotes. -/
def read? (text : List Char) : Option Nat :=
  match Text.split ':' text with
  | [front, minutes, back] => do
    return ((← readFront? front) + decimal.denoted minutes * 60) * 10000000 + (← readBack? back)
  | _ => none

theorem notMem_of_glyphs {c : Char} {ds : List Char} (digits : ∀ d ∈ ds, d ∈ decimal.glyphs)
    (other : c ∉ decimal.glyphs) : c ∉ ds := fun mem => other (digits c mem)

section

variable {n k : Nat} {cs ds : List Char}

theorem readFront?_written (days : DaysWritten n cs) (hours : Filled 2 k ds) :
    readFront? (cs ++ ds) = some (n * 86400 + k * 3600) := by
  have noDot : '.' ∉ ds := notMem_of_glyphs hours.mem_glyphs (by decide)
  unfold readFront?
  cases days with
  | none =>
    rw [List.nil_append, Text.split_of_notMem noDot, ← hours.denoted_eq, Nat.zero_mul,
      Nat.zero_add]
  | some _ numeral =>
    rw [List.append_assoc, List.singleton_append,
      Text.split_append_cons (notMem_of_glyphs numeral.mem_glyphs (by decide)),
      Text.split_of_notMem noDot, ← numeral.denoted_eq, ← hours.denoted_eq]

theorem readBack?_written (seconds : Filled 2 n cs) (fraction : FractionWritten k ds) :
    readBack? (cs ++ ds) = some (n * 10000000 + k) := by
  have noDot : '.' ∉ cs := notMem_of_glyphs seconds.mem_glyphs (by decide)
  unfold readBack?
  cases fraction with
  | none => rw [List.append_nil, Text.split_of_notMem noDot, ← seconds.denoted_eq, Nat.add_zero]
  | some _ digits =>
    rw [Text.split_append_cons noDot,
      Text.split_of_notMem (notMem_of_glyphs digits.mem_glyphs (by decide)),
      ← seconds.denoted_eq, ← digits.denoted_eq]

theorem DaysWritten.colon_notMem (days : DaysWritten n cs) : ':' ∉ cs := by
  cases days with
  | none => exact List.not_mem_nil
  | some _ numeral =>
    rw [List.mem_append, not_or]
    exact ⟨notMem_of_glyphs numeral.mem_glyphs (by decide), by decide⟩

theorem FractionWritten.colon_notMem (fraction : FractionWritten n cs) : ':' ∉ cs := by
  cases fraction with
  | none => exact List.not_mem_nil
  | some _ digits =>
    rw [List.mem_cons, not_or]
    exact ⟨by decide, notMem_of_glyphs digits.mem_glyphs (by decide)⟩

end

theorem Clock.Written.read?_eq {c : Clock} {text : List Char} (written : c.Written text) :
    read? text = some c.total := by
  obtain ⟨days, hours, minutes, seconds, fraction⟩ := written
  have noColon {n : Nat} {ds : List Char} (digits : Filled 2 n ds) : ':' ∉ ds :=
    notMem_of_glyphs digits.mem_glyphs (by decide)
  have front := List.mem_append.not.mpr (not_or.mpr ⟨days.colon_notMem, noColon hours⟩)
  have back := List.mem_append.not.mpr (not_or.mpr ⟨noColon seconds, fraction.colon_notMem⟩)
  unfold read?
  rw [Text.split_append_cons front, Text.split_append_cons (noColon minutes),
    Text.split_of_notMem back]
  dsimp only
  rw [readFront?_written days hours, readBack?_written seconds fraction, minutes.denoted_eq]
  refine congrArg some ?_
  unfold Clock.total
  omega

/-! ### Writing -/

theorem digit_eq : ∀ k, (bound : k < 10) → Char.ofNat ('0'.toNat + k) = decimal.glyphs[k] := by
  decide

theorem filled_two {n : Nat} (bound : n < 100) : Filled 2 n (Calendar.two n).toList := by
  have tens : n / 10 < decimal.glyphs.length := show _ < 10 by omega
  have ones : n % 10 < decimal.glyphs.length := show _ < 10 by omega
  have text : (Calendar.two n).toList = [decimal.glyphs[n / 10], decimal.glyphs[n % 10]] := by
    rw [← digit_eq _ tens, ← digit_eq _ ones]
    exact String.toList_ofList
  rw [text]
  refine ⟨rfl, ?_, ?_⟩
  · exact List.forall_mem_cons.mpr
      ⟨List.getElem_mem tens, List.forall_mem_singleton.mpr (List.getElem_mem ones)⟩
  · rw [Alphabet.denoted, List.foldl_cons, List.foldl_cons, List.foldl_nil,
      decimal.nodup.idxOf_getElem, decimal.nodup.idxOf_getElem]
    show 10 * (10 * 0 + n / 10) + n % 10 = n
    omega

theorem filled_padded {n width : Nat} (pos : 0 < width) (bound : n < 10 ^ width) :
    Filled width n (Text.padded width n).toList := by
  have text : (Text.padded width n).toList =
      List.replicate (width - (Nat.toDigits 10 n).length) '0' ++ Nat.toDigits 10 n := by
    rw [Text.padded, Nat.toString_eq_ofList_toDigits, Integer.toList_zeroFill]
  have short : (Nat.toDigits 10 n).length ≤ width := Nat.toDigits_length 10 n width pos bound
  have numeral : decimal.Numeral n (Nat.toDigits 10 n) := by
    simpa using Integer.numeral_magnitude n
  rw [text]
  refine ⟨?_, List.forall_mem_append.mpr ⟨fun d mem => ?_, numeral.mem_glyphs⟩, ?_⟩
  · rw [List.length_append, List.length_replicate]
    omega
  · rw [List.eq_of_mem_replicate mem]
    decide
  · rw [Alphabet.denoted_zeros, numeral.denoted_eq]

theorem daysWritten_text (n : Nat) :
    DaysWritten n (if n = 0 then "" else toString n ++ ".").toList := by
  split
  · next zero =>
    subst zero
    exact .none
  · next some =>
    rw [String.toList_append]
    exact .some (Nat.pos_of_ne_zero some) (Integer.numeral_magnitude n)

theorem fractionWritten_text {n : Nat} (bound : n < 10000000) :
    FractionWritten n (if n = 0 then "" else "." ++ Text.padded 7 n).toList := by
  split
  · next zero =>
    subst zero
    exact .none
  · next some =>
    rw [String.toList_append]
    exact .some (Nat.pos_of_ne_zero some) (filled_padded (by decide) bound)

theorem written_text (d : Duration) : d.clock.Written d.text.toList := by
  have hours : d.clock.hours < 100 := Nat.lt_trans d.clock.hours_lt (by decide)
  have minutes : d.clock.minutes < 100 := Nat.lt_trans d.clock.minutes_lt (by decide)
  have seconds : d.clock.seconds < 100 := Nat.lt_trans d.clock.seconds_lt (by decide)
  have colon (cs : List Char) : ":".toList ++ cs = ':' :: cs := rfl
  have written := Clock.Written.intro (daysWritten_text d.clock.days) (filled_two hours)
    (filled_two minutes) (filled_two seconds) (fractionWritten_text d.clock.ticks_lt)
  rw [List.append_assoc] at written
  unfold text
  simp only [String.toList_append, List.append_assoc, colon, List.cons_append]
  exact written

theorem seconds_eq_ticks_div (d : Duration) : d.seconds = d.ticks / 10000000 := by
  have := d.nanos_lt
  unfold ticks
  omega

theorem nanos_div_eq_ticks_mod (d : Duration) : d.nanos / 100 = d.ticks % 10000000 := by
  have := d.nanos_lt
  unfold ticks
  omega

/-- The text of a duration shows its days, its time of day and its fraction, and is read back. Two
durations have one text just if they have the same ticks. -/
theorem text_reads (d : Duration) :
    (∃ c : Clock, c.Written d.text.toList ∧ c.total = d.ticks) ∧
    read? d.text.toList = some d.ticks ∧
    ∀ d' : Duration, d.text = d'.text ↔ d.ticks = d'.ticks := by
  have reads (d : Duration) : read? d.text.toList = some d.ticks := by
    rw [d.written_text.read?_eq, total_clock]
  refine ⟨⟨d.clock, d.written_text, d.total_clock⟩, reads d,
    fun d' => ⟨fun same => ?_, fun same => ?_⟩⟩
  · exact Option.some.inj (by rw [← reads d, same, reads d'])
  · unfold text
    rw [seconds_eq_ticks_div d, seconds_eq_ticks_div d', nanos_div_eq_ticks_mod d,
      nanos_div_eq_ticks_mod d', same]

example : ({ seconds := 93784, nanos := 599 } : Duration).text = "1.02:03:04.0000005" := by
  decide +kernel

end StructuredLog.Duration

import Mathlib
import StructuredLog.Json.Quoted
import StructuredLog.Scalar.Basic
import StructuredLog.Calendar.Writer

/-!
Texts that a JSON string holds as they are. Those of dates and times are among them because every
field is in its range, so that two places are enough for it; a number above 99 may need a backslash
there.
-/

namespace StructuredLog

namespace Json

def PlainChar (c : Char) : Prop := c ≠ '"' ∧ c ≠ '\\' ∧ 0x20 ≤ c.toNat

/-- A text in which nothing is escaped. -/
def Plain (s : String) : Prop := ∀ c ∈ s.toList, PlainChar c

instance (c : Char) : Decidable (PlainChar c) :=
  inferInstanceAs (Decidable (_ ∧ _ ∧ _))

instance (s : String) : Decidable (Plain s) :=
  List.decidableBAll PlainChar s.toList

theorem escape_plain {c : Char} (plain : PlainChar c) : escape c = [c] := by
  obtain ⟨noQuote, noSlash, printed⟩ := plain
  unfold escape
  split
  · contradiction
  · contradiction
  case h_7 => exact if_neg (Nat.not_lt.mpr printed)
  all_goals exact absurd printed (by decide)

theorem quoted_plain {s : String} (plain : Plain s) : quoted s = "\"" ++ s ++ "\"" := by
  have same : s.toList.flatMap escape = s.toList := by
    rw [List.flatMap_congr fun c mem => escape_plain (plain c mem)]
    exact List.flatMap_singleton' s.toList
  rw [quoted, same, ← String.toList_inj, String.toList_ofList, String.toList_append,
    String.toList_append]
  rfl

theorem Plain.append {s t : String} (left : Plain s) (right : Plain t) : Plain (s ++ t) := by
  intro c mem
  rw [String.toList_append] at mem
  rcases List.mem_append.mp mem with mem | mem
  · exact left c mem
  · exact right c mem

theorem plain_ofList {cs : List Char} (plain : ∀ c ∈ cs, PlainChar c) :
    Plain (String.ofList cs) := by
  intro c mem
  rw [String.toList_ofList] at mem
  exact plain c mem

theorem plainChar_of_isDigit {c : Char} (digit : c.isDigit = true) : PlainChar c := by
  have bounds := Char.isDigit_iff_toNat.mp digit
  refine ⟨?_, ?_, ?_⟩
  · rintro rfl
    contradiction
  · rintro rfl
    contradiction
  · exact Nat.le_trans (by decide) bounds.1

theorem plain_toString (n : Nat) : Plain (toString n) := by
  rw [Nat.toString_eq_ofList_toDigits]
  exact plain_ofList fun c mem =>
    plainChar_of_isDigit (Nat.isDigit_of_mem_toDigits (by decide) (by decide) mem)

theorem plain_zeroFill {s : String} (width : Nat) (plain : Plain s) :
    Plain (Text.zeroFill width s) := by
  refine (plain_ofList fun c mem => ?_).append plain
  rw [List.eq_of_mem_replicate mem]
  decide

end Json

namespace Calendar

open Json

theorem plainChar_digit {n : Nat} (digit : n < 10) : PlainChar (Char.ofNat ('0'.toNat + n)) := by
  have all : ∀ n ∈ List.range 10, PlainChar (Char.ofNat ('0'.toNat + n)) := by decide
  exact all n (List.mem_range.mpr digit)

theorem plain_two {n : Nat} (small : n < 100) : Plain (two n) := by
  refine plain_ofList fun c mem => ?_
  rcases List.mem_pair.mp mem with rfl | rfl
  · exact plainChar_digit (by omega)
  · exact plainChar_digit (by omega)

theorem plain_empty : Plain "" := by decide

theorem plain_point : Plain "." := by decide

theorem plain_colon : Plain ":" := by decide

theorem plain_minus : Plain "-" := by decide

theorem plain_plus : Plain "+" := by decide

theorem plain_signed (width : Nat) (always : Bool) (n : Int) :
    Plain (signed width .zero always n) := by
  refine Plain.append ?_ (plain_zeroFill _ (plain_toString _))
  split
  · exact plain_minus
  split
  · exact plain_plus
  · exact plain_empty

theorem plain_yearText (year : Int) : Plain (yearText .zero year) := by
  unfold yearText
  split
  · exact plain_signed 4 false year
  · exact plain_signed 5 true year

theorem plain_fractionText (nanos : Nat) : Plain (fractionText nanos) := by
  unfold fractionText
  split
  · exact plain_empty
  split
  · exact plain_point.append (plain_zeroFill 3 (plain_toString _))
  split
  · exact plain_point.append (plain_zeroFill 6 (plain_toString _))
  · exact plain_point.append (plain_zeroFill 9 (plain_toString _))

theorem plain_dateText (d : Date) : Plain (dateText d) := by
  have bounds := d.inRange.bounds
  have month : Plain (two d.month) := plain_two (by omega)
  have day : Plain (two d.day) := plain_two (by omega)
  exact ((((plain_yearText d.year).append plain_minus).append month).append plain_minus).append day

theorem plain_timeText (t : Time) : Plain (timeText t) := by
  have inRange := t.inRange
  have hour : Plain (two t.hour) := plain_two (by omega)
  have minute : Plain (two t.minute) := plain_two (by omega)
  have second : Plain (two t.shownSecond) := by
    refine plain_two ?_
    unfold Time.shownSecond
    omega
  exact ((((hour.append plain_colon).append minute).append plain_colon).append second).append
    (plain_fractionText _)

theorem plain_localText (t : LocalDateTime) : Plain (localText t) := by
  have mark : Plain "T" := by decide
  exact ((plain_dateText t.date).append mark).append (plain_timeText t.time)

theorem plain_zonedText (t : ZonedDateTime) : Plain (zonedText t) := by
  have inRange := t.offset.inRange
  have sign : Plain (if t.offset.seconds < 0 then "-" else "+") := by
    split
    · exact plain_minus
    · exact plain_plus
  have hours : Plain (two ((t.offset.seconds.natAbs + 30) / 60 / 60)) := plain_two (by omega)
  have minutes : Plain (two ((t.offset.seconds.natAbs + 30) / 60 % 60)) := plain_two (by omega)
  exact (plain_localText t.clock).append
    (((sign.append hours).append plain_colon).append minutes)

end Calendar

end StructuredLog

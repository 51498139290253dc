import StructuredLog.Proofs.Decimal.Shortest
import StructuredLog.Proofs.Json.Reader
import StructuredLog.Scalar.Format

/-!
The texts of integers and of binary numbers read as JSON numbers: neither has a zero before other
digits.
-/

namespace StructuredLog

-- Powers are the core library's, also where others are in scope.
attribute [local instance (2000)] instPowNat

namespace Json

theorem head?_toDigits_ne {n : Nat} (pos : 0 < n) : (Nat.toDigits 10 n).head? ≠ some '0' := by
  induction n using Nat.strongRecOn with
  | ind n ih =>
    rcases Nat.lt_or_ge n 10 with small | large
    · have all : ∀ d ∈ List.range 10, 0 < d → some (Nat.digitChar d) ≠ some '0' := by decide
      rw [Nat.toDigits_of_lt_base small]
      exact all n (List.mem_range.mpr small) pos
    · rw [Nat.toDigits_of_base_le (by decide) large,
        List.head?_append_of_ne_nil _ Nat.toDigits_ne_nil]
      exact ih (n / 10) (by omega) (by omega)

theorem isDigit_of_mem_toDigits (n : Nat) : ∀ d ∈ Nat.toDigits 10 n, d.isDigit = true :=
  fun _ mem => Nat.isDigit_of_mem_toDigits (by decide) (by decide) mem

theorem isDigit_of_mem_zeros (n : Nat) : ∀ d ∈ List.replicate n '0', d.isDigit = true := by
  intro d mem
  rw [List.eq_of_mem_replicate mem]
  decide

theorem isWhole_toDigits (n : Nat) : IsWhole (Nat.toDigits 10 n) where
  ne_nil := Nat.toDigits_ne_nil
  isDigit := isDigit_of_mem_toDigits n
  noLeadingZero := by
    rcases Nat.eq_zero_or_pos n with rfl | pos
    · exact .inr rfl
    · exact .inl (head?_toDigits_ne pos)

theorem valueFrom_toDigits (n : Nat) : Text.valueFrom 0 (Nat.toDigits 10 n) = n :=
  Nat.ofDigitChars_ten_toDigits

theorem reads_integer (n : Integer) : Reads n.text.toList (.number (.integer n.value)) := by
  have text : n.text.toList =
      decimalText (n.value < 0) (Nat.toDigits 10 n.value.natAbs) [] := by
    simp only [Integer.text, Integer.sign, decimalText, String.toList_append,
      Nat.toString_eq_ofList_toDigits, String.toList_ofList, decide_eq_true_eq, if_true,
      List.append_nil]
    split <;> rfl
  have number : decimalNumber (n.value < 0) (Nat.toDigits 10 n.value.natAbs) [] =
      .integer n.value := by
    simp only [decimalNumber, valueFrom_toDigits, decide_eq_true_eq, true_and]
    rw [if_pos (by omega)]
    congr 1
    omega
  rw [text, ← number]
  exact Reads.number _ (isWhole_toDigits _) (by simp)

/-- A negative zero is not an integer. -/
def Number.ofWhole (negative : Bool) (n : Nat) : Number :=
  if negative = true ∧ n = 0 then .decimal true 0 0
  else .integer (if negative then -(n : Int) else n)

theorem decimalNumber_nil (negative : Bool) (whole : List Char) :
    decimalNumber negative whole [] = .ofWhole negative (Text.valueFrom 0 whole) := by
  simp only [decimalNumber, Number.ofWhole, true_and]
  by_cases zero : negative = true ∧ Text.valueFrom 0 whole = 0
  · rw [if_neg (not_not_intro zero), if_pos zero, zero.1, zero.2]
    rfl
  · rw [if_pos zero, if_neg zero]

end Json

namespace Decimal

/-- The number that positional notation writes. -/
def Digits.number (negative : Bool) (d : Digits) : Json.Number :=
  if d.exponent < 0 then .decimal negative d.digits d.exponent
  else .ofWhole negative (d.digits * 10 ^ d.exponent.toNat)

end Decimal

namespace Json

theorem isWhole_withZeros {digits zeros : Nat} (significant : 0 < zeros → 0 < digits) :
    IsWhole (Nat.toDigits 10 digits ++ List.replicate zeros '0') where
  ne_nil := List.append_ne_nil_of_left_ne_nil Nat.toDigits_ne_nil _
  isDigit := List.forall_mem_append.mpr
    ⟨isDigit_of_mem_toDigits digits, isDigit_of_mem_zeros zeros⟩
  noLeadingZero := by
    rcases Nat.eq_zero_or_pos zeros with rfl | pos
    · rw [List.replicate_zero, List.append_nil]
      exact (isWhole_toDigits digits).noLeadingZero
    · rw [List.head?_append_of_ne_nil _ Nat.toDigits_ne_nil]
      exact .inl (head?_toDigits_ne (significant pos))

/-- Digits with zeros before them, so that one stands before the point. -/
def filled (places n : Nat) : List Char :=
  List.replicate (places + 1 - (Nat.toDigits 10 n).length) '0' ++ Nat.toDigits 10 n

theorem isDigit_of_mem_filled (places n : Nat) : ∀ d ∈ filled places n, d.isDigit = true :=
  List.forall_mem_append.mpr ⟨isDigit_of_mem_zeros _, isDigit_of_mem_toDigits n⟩

theorem length_filled (places n : Nat) :
    (filled places n).length = max (places + 1) (Nat.toDigits 10 n).length := by
  rw [filled, List.length_append, List.length_replicate]
  omega

theorem isWhole_take_filled (places n : Nat) :
    IsWhole ((filled places n).take ((filled places n).length - places)) where
  ne_nil := by
    have length := length_filled places n
    refine List.ne_nil_of_length_pos ?_
    rw [List.length_take]
    omega
  isDigit := fun d mem => isDigit_of_mem_filled places n d (List.mem_of_mem_take mem)
  noLeadingZero := by
    have length := length_filled places n
    -- Either no zero was filled in, or a single digit is left before the point.
    rcases Nat.lt_or_ge (places + 1) (Nat.toDigits 10 n).length with long | short
    · have pos : 0 < n := by
        refine Nat.pos_of_ne_zero ?_
        rintro rfl
        simp at long
      have unfilled : places + 1 - (Nat.toDigits 10 n).length = 0 := by omega
      refine .inl ?_
      rw [List.head?_take, if_neg (by omega), filled, unfilled, List.replicate_zero,
        List.nil_append]
      exact head?_toDigits_ne pos
    · refine .inr ?_
      rw [List.length_take]
      omega

theorem valueFrom_filled (places n : Nat) : Text.valueFrom 0 (filled places n) = n := by
  refine (Nat.ofDigitChars_append 0).trans ?_
  rw [Nat.ofDigitChars_replicate_zero]
  exact valueFrom_toDigits n

theorem valueFrom_withZeros (digits zeros : Nat) :
    Text.valueFrom 0 (Nat.toDigits 10 digits ++ List.replicate zeros '0') =
      digits * 10 ^ zeros := by
  refine (Nat.ofDigitChars_append 0).trans ?_
  rw [Nat.ofDigitChars_replicate_zero, Nat.ofDigitChars_ten_toDigits, Nat.mul_comm]

theorem decimalNumber_filled (negative : Bool) {places : Nat} (pos : 0 < places) (n : Nat) :
    let start := (filled places n).length - places
    (filled places n).drop start ≠ [] ∧
      decimalNumber negative ((filled places n).take start) ((filled places n).drop start) =
        .decimal negative n (-places) := by
  intro start
  have length : ((filled places n).drop start).length = places := by
    have filled := length_filled places n
    rw [List.length_drop]
    omega
  have ne : (filled places n).drop start ≠ [] := List.ne_nil_of_length_pos (by omega)
  have value : Text.valueFrom (Text.valueFrom 0 ((filled places n).take start))
      ((filled places n).drop start) = n := by
    refine (Nat.ofDigitChars_append 0).symm.trans ?_
    rw [List.take_append_drop]
    exact valueFrom_filled places n
  refine ⟨ne, ?_⟩
  simp only [decimalNumber, ne, false_and, if_false, value, length]

theorem reads_positional (negative : Bool) {d : Decimal.Digits}
    (significant : 0 < d.exponent → 0 < d.digits) :
    Reads ((if negative then ['-'] else []) ++ d.positional) (.number (d.number negative)) := by
  unfold Decimal.Digits.positional Decimal.Digits.number
  rw [Nat.toString_eq_ofList_toDigits, String.toList_ofList]
  by_cases whole : 0 ≤ d.exponent
  · have isWhole : IsWhole (Nat.toDigits 10 d.digits ++ List.replicate d.exponent.toNat '0') :=
      isWhole_withZeros fun pos => significant (by omega)
    have read := Reads.number negative isWhole (List.forall_mem_nil _)
    rw [decimalText, if_pos rfl, List.append_nil, decimalNumber_nil, valueFrom_withZeros] at read
    rw [if_pos whole, if_neg (Int.not_lt.mpr whole)]
    exact read
  · obtain ⟨places, eq⟩ : ∃ places : Nat, d.exponent = -places := ⟨d.exponent.natAbs, by omega⟩
    have pos : 0 < places := by omega
    obtain ⟨ne, number⟩ := decimalNumber_filled negative pos d.digits
    have digits : ∀ c ∈ (filled places d.digits).drop ((filled places d.digits).length - places),
        c.isDigit = true :=
      fun c mem => isDigit_of_mem_filled places d.digits c (List.mem_of_mem_drop mem)
    have read := Reads.number negative (isWhole_take_filled places d.digits) digits
    rw [decimalText, if_neg ne, number] at read
    rw [if_neg whole, if_pos (Int.not_le.mp whole), eq, Int.neg_neg, Int.toNat_natCast]
    exact read

theorem reads_binary {b : Decimal.Binary} (moderate : b.Moderate) :
    Reads b.text.toList (.number (b.shortest.number b.negative)) := by
  rw [Decimal.Binary.text, String.toList_ofList]
  exact reads_positional b.negative (Decimal.shortest_pos moderate)

/-! ### Characters of numbers -/

def NumberChar (c : Char) : Prop := c.isDigit = true ∨ c = '-' ∨ c = '.'

theorem numberChar_minus : NumberChar '-' := .inr (.inl rfl)

theorem numberChar_toString (n : Nat) : ∀ c ∈ (toString n).toList, NumberChar c := by
  rw [Nat.toString_eq_ofList_toDigits, String.toList_ofList]
  exact fun c mem => .inl (isDigit_of_mem_toDigits n c mem)

theorem numberChar_zeros (count : Nat) : ∀ c ∈ List.replicate count '0', NumberChar c :=
  fun c mem => .inl (isDigit_of_mem_zeros count c mem)

theorem numberChar_positional (d : Decimal.Digits) : ∀ c ∈ d.positional, NumberChar c := by
  have digits := numberChar_toString d.digits
  have filled (count : Nat) :
      ∀ c ∈ List.replicate count '0' ++ (toString d.digits).toList, NumberChar c :=
    List.forall_mem_append.mpr ⟨numberChar_zeros count, digits⟩
  unfold Decimal.Digits.positional
  dsimp only
  split
  · exact List.forall_mem_append.mpr ⟨digits, numberChar_zeros _⟩
  · rw [List.forall_mem_append, List.forall_mem_cons]
    exact ⟨fun c mem => filled _ c (List.mem_of_mem_take mem), .inr (.inr rfl),
      fun c mem => filled _ c (List.mem_of_mem_drop mem)⟩

theorem numberChar_integer (n : Integer) : ∀ c ∈ n.text.toList, NumberChar c := by
  rw [Integer.text, String.toList_append, List.forall_mem_append]
  refine ⟨?_, numberChar_toString _⟩
  unfold Integer.sign
  split
  · exact List.forall_mem_singleton.mpr numberChar_minus
  · exact List.forall_mem_nil _

theorem numberChar_binary (b : Decimal.Binary) : ∀ c ∈ b.text.toList, NumberChar c := by
  rw [Decimal.Binary.text, String.toList_ofList, List.forall_mem_append]
  refine ⟨?_, numberChar_positional b.shortest⟩
  cases b.negative with
  | true => exact List.forall_mem_singleton.mpr numberChar_minus
  | false => exact List.forall_mem_nil _

end Json

end StructuredLog

/-!
Decimal digits: reading a run of ASCII digits, and writing a number with a least width.
-/

namespace StructuredLog.Text

/-- The number that a run of decimal digits denotes after the digits of `start`. -/
def valueFrom (start : Nat) (ds : List Char) : Nat :=
  ds.foldl (fun n d => 10 * n + (d.toNat - '0'.toNat)) start

/-- Reads a nonempty run of ASCII digits; leading zeros are allowed. -/
def nat? (ds : List Char) : Option Nat :=
  if ds ≠ [] ∧ ds.all Char.isDigit then some (valueFrom 0 ds) else none

theorem nat?_eq_some_iff {ds : List Char} {n : Nat} :
    nat? ds = some n ↔ ds ≠ [] ∧ (∀ d ∈ ds, d.isDigit) ∧ Nat.ofDigitChars 10 ds 0 = n := by
  have value : valueFrom 0 ds = Nat.ofDigitChars 10 ds 0 := rfl
  simp only [nat?, List.all_eq_true, value]
  split
  · next digits =>
    rw [Option.some.injEq]
    exact ⟨fun h => ⟨digits.1, digits.2, h⟩, fun h => h.2.2⟩
  · next noDigits =>
    refine ⟨fun h => by simp at h, fun h => ?_⟩
    exact absurd ⟨h.1, h.2.1⟩ noDigits

/-- Fills with zeros on the left up to `width` characters. -/
def zeroFill (width : Nat) (s : String) : String :=
  String.ofList (List.replicate (width - s.length) '0') ++ s

/-- Decimal digits of `n`, at least `width` of them. -/
def padded (width n : Nat) : String := zeroFill width (toString n)

end StructuredLog.Text

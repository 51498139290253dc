import Mathlib

/-!
Runs of characters: where the characters of a class stop.
-/

namespace StructuredLog.Text

theorem takeWhile_append_stop {p : Char → Bool} {cs r : List Char}
    (pass : ∀ c ∈ cs, p c = true) (stop : ∀ x ∈ r.head?, p x = false) :
    (cs ++ r).takeWhile p = cs := by
  rw [List.takeWhile_append_of_pos pass]
  cases r with
  | nil => simp
  | cons x r => rw [List.takeWhile_cons_of_neg (by simp [stop x rfl]), List.append_nil]

theorem dropWhile_append_stop {p : Char → Bool} {cs r : List Char}
    (pass : ∀ c ∈ cs, p c = true) (stop : ∀ x ∈ r.head?, p x = false) :
    (cs ++ r).dropWhile p = r := by
  rw [List.dropWhile_append_of_pos pass]
  cases r with
  | nil => rfl
  | cons x r => rw [List.dropWhile_cons_of_neg (by simp [stop x rfl])]

theorem exists_span (p : Char → Bool) (cs : List Char) :
    ∃ u r, cs = u ++ r ∧ (∀ c ∈ u, p c = true) ∧ ∀ x ∈ r.head?, p x = false := by
  refine ⟨cs.takeWhile p, cs.dropWhile p, ?_, fun _ => List.mem_takeWhile_imp, ?_⟩
  · rw [List.takeWhile_append_dropWhile]
  · intro x first
    have stop := List.head?_dropWhile_not p cs
    rw [Option.mem_def.mp first] at stop
    exact stop

end StructuredLog.Text

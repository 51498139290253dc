/-!
Splitting at a separator character. A text with `n` separators has `n + 1` fields.
-/

namespace StructuredLog.Text

/-- The fields between separators; the empty text is one empty field. -/
def split (sep : Char) : List Char → List (List Char)
  | [] => [[]]
  | c :: cs =>
    if c = sep then [] :: split sep cs
    else match split sep cs with
      | field :: fields => (c :: field) :: fields
      | [] => [[c]]

theorem split_ne_nil (sep : Char) (cs : List Char) : split sep cs ≠ [] := by
  cases cs with
  | nil => simp [split]
  | cons c cs =>
    simp only [split]
    split
    · simp
    · split <;> simp

theorem split_of_notMem {sep : Char} {cs : List Char} (none : sep ∉ cs) : split sep cs = [cs] := by
  induction cs with
  | nil => rfl
  | cons c cs ih =>
    rw [List.mem_cons, not_or] at none
    rw [split, if_neg (Ne.symm none.1), ih none.2]

/-- A field ends at the first separator. -/
theorem split_append_cons {sep : Char} {cs : List Char} (none : sep ∉ cs) (rest : List Char) :
    split sep (cs ++ sep :: rest) = cs :: split sep rest := by
  induction cs with
  | nil => rw [List.nil_append, split, if_pos rfl]
  | cons c cs ih =>
    rw [List.mem_cons, not_or] at none
    rw [List.cons_append, split, if_neg (Ne.symm none.1), ih none.2]

end StructuredLog.Text

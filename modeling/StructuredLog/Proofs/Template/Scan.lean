import StructuredLog.Proofs.Text.Run
import StructuredLog.Template.Scan

/-!
Where scanning stops. A tag reaches to the first character that may not stand in one, and a text
run to the first opening brace that is not doubled. The tokens of what follows do not depend on what
was read before.
-/

namespace StructuredLog.Template

open Text

theorem isNameChar_of_isDigit {c : Char} (h : c.isDigit = true) : isNameChar c = true := by
  have ascii : c.toNat < 0x80 := by
    simp only [Char.isDigit, Bool.and_eq_true, decide_eq_true_eq, UInt32.le_iff_toNat_le] at h
    have : c.toNat ≤ 57 := h.2
    omega
  simp [isNameChar, isAlphanumeric_of_ascii ascii, Char.isAlphanum, h]

theorem isTagChar_of_isNameChar {c : Char} (h : isNameChar c = true) : isTagChar c = true := by
  simp [isTagChar, h]

theorem isTagChar_of_isFormatChar {c : Char} (h : isFormatChar c = true) :
    isTagChar c = true := by
  simp [isTagChar, h]

/-- The separators inside a tag and the braces are no part of a name. -/
theorem ne_of_isNameChar {c d : Char} (h : isNameChar c = true) (other : isNameChar d = false) :
    c ≠ d := by
  rintro rfl
  rw [h] at other
  contradiction

theorem opensTag_cons {cs : List Char} : opensTag ('{' :: cs) = true ↔ cs.head? ≠ some '{' := by
  cases cs with
  | nil => simp [opensTag]
  | cons c cs =>
    by_cases h : c = '{'
    · simp [opensTag, h]
    · simp [opensTag, h]

theorem opensTag_eq_true {cs : List Char} (h : opensTag cs = true) :
    ∃ rest, cs = '{' :: rest ∧ rest.head? ≠ some '{' := by
  have opened := h
  unfold opensTag at h
  split at h
  · contradiction
  · exact ⟨_, rfl, opensTag_cons.mp opened⟩
  · contradiction

theorem opensTag_append {content r : List Char} (single : content.head? ≠ some '{')
    (other : r.head? ≠ some '{') : opensTag ('{' :: (content ++ r)) = true := by
  rw [opensTag_cons]
  cases content with
  | nil => exact other
  | cons c content => simpa using single

/-- A closed tag is one token, whatever comes after it. -/
theorem scan_closed {content r : List Char} (inTag : ∀ c ∈ content, isTagChar c = true)
    (single : content.head? ≠ some '{') :
    scan ('{' :: (content ++ '}' :: r)) = tagToken content :: scan r := by
  have close : ∀ x ∈ ('}' :: r).head?, isTagChar x = false := by
    rintro x ⟨⟩
    decide
  rw [scan, dif_pos (opensTag_append single (by simp))]
  split
  · next after stop =>
    rw [dropWhile_append_stop inTag close, List.cons.injEq] at stop
    rw [takeWhile_append_stop inTag close, stop.2]
  · next noClose => exact absurd (dropWhile_append_stop inTag close) (noClose r)

/-- A tag that breaks off is text up to there, and scanning goes on at the character that broke it,
if it was not the end. -/
theorem scan_broken {content r : List Char} (inTag : ∀ c ∈ content, isTagChar c = true)
    (stop : ∀ x ∈ r.head?, isTagChar x = false ∧ x ≠ '}') (single : content.head? ≠ some '{') :
    scan ('{' :: (content ++ r)) = .text (String.ofList ('{' :: content)) :: scan r := by
  have other : r.head? ≠ some '{' := by
    intro opening
    have := (stop '{' opening).1
    contradiction
  have noTag : ∀ x ∈ r.head?, isTagChar x = false := fun x mem => (stop x mem).1
  rw [scan, dif_pos (opensTag_append single other)]
  split
  · next after close =>
    rw [dropWhile_append_stop inTag noTag] at close
    exact absurd rfl (stop '}' (by simp [close])).2
  · rw [takeWhile_append_stop inTag noTag, dropWhile_append_stop inTag noTag]

theorem scan_literal {cs : List Char} (text : opensTag cs = false) (ne : cs ≠ []) :
    scan cs = .text (String.ofList (literal cs).1) :: scan (literal cs).2 := by
  cases cs with
  | nil => contradiction
  | cons c rest => rw [scan, dif_neg (by simp [text])]

theorem literal_cons {c : Char} {cs : List Char} (notOpening : c ≠ '{') (notClosing : c ≠ '}') :
    literal (c :: cs) = (c :: (literal cs).1, (literal cs).2) := by
  rw [literal]
  · exact fun _ opening => absurd opening notOpening
  · exact notOpening
  · exact fun _ closing => absurd closing notClosing

theorem literal_of_opensTag {cs : List Char} (h : opensTag cs = true) : literal cs = ([], cs) := by
  obtain ⟨rest, rfl, single⟩ := opensTag_eq_true h
  cases rest with
  | nil => rfl
  | cons d rest =>
    rw [literal]
    simpa using single

theorem tokenize_ofList {cs : List Char} (ne : cs ≠ []) :
    tokenize (String.ofList cs) = scan cs := by
  have notEmpty : (String.ofList cs).isEmpty = false := by simpa using ne
  rw [tokenize, if_neg (by simp [notEmpty]), String.toList_ofList]

end StructuredLog.Template

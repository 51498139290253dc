import StructuredLog.Proofs.Template.Tag
import StructuredLog.Template.Printer

/-!
Writing tokens and reading them back. Doubled braces are always undone in pairs from the left, so
that a text run stops exactly at the single brace of the tag that was written after it. Two texts
in a row would be read as one, and are left out.
-/

namespace StructuredLog

open Template (isNameChar isFormatChar)

/-- The parts can be written so that a tag says them: a name and a format of the right characters,
and a width of 31 bits other than zero. -/
def Placeholder.Writable (p : Placeholder) : Prop :=
  (p.name ≠ "" ∧ p.name.toList.all isNameChar = true) ∧
  (∀ a ∈ p.alignment, 0 < a.width ∧ a.width ≤ 0x7fffffff) ∧
  ∀ f ∈ p.format, f ≠ "" ∧ f.toList.all isFormatChar = true

instance (p : Placeholder) : Decidable p.Writable := by
  unfold Placeholder.Writable
  infer_instance

namespace Token

def Writable : Token → Prop
  | .text s => s ≠ ""
  | .placeholder p => p.Writable

instance (t : Token) : Decidable t.Writable := by
  unfold Writable
  split <;> infer_instance

/-- Neighbours that are told apart when they are read: not two texts. -/
def Separate : Token → Token → Prop
  | .text _, .text _ => False
  | _, _ => True

instance (t u : Token) : Decidable (t.Separate u) := by
  unfold Separate
  split <;> infer_instance

/-- The token with the source that it is written as. -/
def recorded : Token → Token
  | .text s => .text s
  | .placeholder p => .placeholder { p with source := p.written }

end Token

namespace Template

theorem doubleBraces_cons_brace {c : Char} (cs : List Char) (brace : c = '{' ∨ c = '}') :
    doubleBraces (c :: cs) = c :: c :: doubleBraces cs := by
  rw [doubleBraces, List.flatMap_cons, if_pos brace]
  rfl

theorem doubleBraces_cons {c : Char} (cs : List Char) (other : ¬(c = '{' ∨ c = '}')) :
    doubleBraces (c :: cs) = c :: doubleBraces cs := by
  rw [doubleBraces, List.flatMap_cons, if_neg other]
  rfl

/-- A text is read back up to where scanning for text stops by itself. -/
theorem literal_doubleBraces {cs rest : List Char} (stop : literal rest = ([], rest)) :
    literal (doubleBraces cs ++ rest) = (cs, rest) := by
  induction cs with
  | nil => exact stop
  | cons c cs ih =>
    by_cases brace : c = '{' ∨ c = '}'
    · rw [doubleBraces_cons_brace cs brace]
      rcases brace with rfl | rfl <;> simp [literal, ih]
    · rw [doubleBraces_cons cs brace, List.cons_append,
        literal_cons (fun h => brace (.inl h)) (fun h => brace (.inr h)), ih]

theorem doubleBraces_ne_nil {cs : List Char} (ne : cs ≠ []) : doubleBraces cs ≠ [] := by
  obtain ⟨c, cs, rfl⟩ := List.exists_cons_of_ne_nil ne
  by_cases brace : c = '{' ∨ c = '}'
  · simp [doubleBraces_cons_brace cs brace]
  · simp [doubleBraces_cons cs brace]

theorem opensTag_doubleBraces {cs : List Char} (rest : List Char) (ne : cs ≠ []) :
    opensTag (doubleBraces cs ++ rest) = false := by
  obtain ⟨c, cs, rfl⟩ := List.exists_cons_of_ne_nil ne
  by_cases brace : c = '{' ∨ c = '}'
  · rw [doubleBraces_cons_brace cs brace]
    rcases brace with rfl | rfl <;> rfl
  · rw [doubleBraces_cons cs brace, List.cons_append]
    unfold opensTag
    split <;> simp_all

end Template

open Template (Width Tag)

theorem Alignment.exists_width {a : Alignment} (h : 0 < a.width ∧ a.width ≤ 0x7fffffff) :
    ∃ w : Width, w.text = a.written.toList ∧ w.alignment = a := by
  have value : Nat.ofDigitChars 10 (Nat.toDigits 10 a.width) 0 = a.width :=
    Nat.ofDigitChars_ten_toDigits
  refine ⟨⟨a.side, Nat.toDigits 10 a.width, Nat.toDigits_ne_nil, fun d mem =>
    Nat.isDigit_of_mem_toDigits (by decide) (by decide) mem, ?_, ?_⟩, ?_, ?_⟩
  · rw [value]
    exact h.1
  · rw [value]
    exact h.2
  · cases side : a.side <;> simp [Width.text, Alignment.written, side]
  · simp only [Width.alignment, value]

theorem exists_widths {o : Option Alignment} (h : ∀ a ∈ o, 0 < a.width ∧ a.width ≤ 0x7fffffff) :
    ∃ w : Option Width, w.map Width.text = o.map (·.written.toList) ∧
      w.map Width.alignment = o := by
  cases o with
  | none => exact ⟨none, rfl, rfl⟩
  | some a =>
    obtain ⟨w, text, alignment⟩ := Alignment.exists_width (h a rfl)
    exact ⟨some w, by simp [text], by simp [alignment]⟩

theorem Placeholder.toList_written (p : Placeholder) :
    p.written.toList = '{' :: (p.hint.mark?.toList ++ p.name.toList ++
      Tag.after ',' (p.alignment.map (·.written.toList)) ++
      Tag.after ':' (p.format.map String.toList) ++ ['}']) := by
  unfold Placeholder.written
  cases p.alignment <;> cases p.format <;> simp [Tag.after]

/-- The written tag of a placeholder is the text of its parts. -/
theorem Placeholder.Writable.exists_tag {p : Placeholder} (h : p.Writable) :
    ∃ t : Tag, p.written.toList = '{' :: (t.text ++ ['}']) ∧
      t.placeholder = { p with source := p.written } := by
  obtain ⟨⟨name_ne, nameChars⟩, widths, formats⟩ := h
  obtain ⟨w, text, alignment⟩ := exists_widths widths
  have name_ne_nil : p.name.toList ≠ [] := by simpa using name_ne
  have format_chars : ∀ f ∈ p.format.map String.toList, ∀ c ∈ f, isFormatChar c = true := by
    intro f mem
    obtain ⟨f, isFormat, rfl⟩ := Option.map_eq_some_iff.mp mem
    exact List.all_eq_true.mp (formats f isFormat).2
  have format : ((p.format.map String.toList).filter (· ≠ [])).map String.ofList = p.format := by
    cases h : p.format with
    | none => rfl
    | some f =>
      have ne := (formats f h).1
      simp [Option.filter, ne]
  have source := p.toList_written
  rw [← text] at source
  refine ⟨⟨p.hint, p.name.toList, w, p.format.map String.toList, name_ne_nil,
    List.all_eq_true.mp nameChars, format_chars⟩, source, ?_⟩
  have written := congrArg String.ofList source
  rw [String.ofList_toList] at written
  simp only [Tag.placeholder, Tag.text, Tag.marked, alignment, format, String.ofList_toList,
    List.cons_append, ← written]

namespace Template

theorem written_cons (t : Token) (ts : List Token) :
    (written (t :: ts)).toList = t.written.toList ++ (written ts).toList := by
  simp [written]

theorem literal_written {ts : List Token} (writable : ∀ t ∈ ts, t.Writable)
    (tagFirst : ∀ s, ts.head? ≠ some (.text s)) :
    literal (written ts).toList = ([], (written ts).toList) := by
  cases ts with
  | nil => rfl
  | cons t ts =>
    cases t with
    | text s => simp at tagFirst
    | placeholder p =>
      obtain ⟨tag, source, -⟩ := (writable (.placeholder p) (by simp)).exists_tag
      rw [written_cons]
      apply literal_of_opensTag
      simp only [Token.written, source]
      rw [List.cons_append, List.append_assoc, List.singleton_append]
      exact opensTag_append tag.head_text_ne (by simp)

/-- Scanning meets every boundary that was written. -/
theorem scan_written {ts : List Token} (writable : ∀ t ∈ ts, t.Writable)
    (separate : ts.IsChain Token.Separate) :
    scan (written ts).toList = ts.map Token.recorded := by
  induction ts with
  | nil => simp [written, scan]
  | cons t ts ih =>
    have rest := ih (fun u mem => writable u (by simp [mem])) separate.tail
    rw [written_cons, List.map_cons, ← rest]
    cases t with
    | text s =>
      have ne : s.toList ≠ [] := by
        have := writable (.text s) (by simp)
        simpa [Token.Writable] using this
      have stop : literal (written ts).toList = ([], (written ts).toList) := by
        refine literal_written (fun u mem => writable u (by simp [mem])) fun s' first => ?_
        exact absurd (separate.rel_head? first) (by simp [Token.Separate])
      have notNil : doubleBraces s.toList ++ (written ts).toList ≠ [] := by
        simp [doubleBraces_ne_nil ne]
      simp only [Token.written, String.toList_ofList]
      rw [scan_literal (opensTag_doubleBraces _ ne) notNil, literal_doubleBraces stop]
      simp [Token.recorded]
    | placeholder p =>
      obtain ⟨tag, source, parts⟩ := (writable (.placeholder p) (by simp)).exists_tag
      simp only [Token.written, source]
      rw [List.cons_append, List.append_assoc, List.singleton_append,
        scan_closed (fun _ => Tag.isTagChar_of_mem_text) tag.head_text_ne, tagToken_text, parts]
      rfl

/-- Written out and read again, tokens are the same tokens, and each placeholder records the tag
that was written for it. -/
theorem tokenize_written {ts : List Token} (ne : ts ≠ []) (writable : ∀ t ∈ ts, t.Writable)
    (separate : ts.IsChain Token.Separate) :
    tokenize (written ts) = ts.map Token.recorded := by
  obtain ⟨t, ts, rfl⟩ := List.exists_cons_of_ne_nil ne
  have notEmpty : (written (t :: ts)).toList ≠ [] := by
    intro empty
    have scanned := scan_written writable separate
    rw [empty, scan] at scanned
    simp at scanned
  rw [← scan_written writable separate, ← tokenize_ofList notEmpty, String.ofList_toList]

theorem tokenize_written_braces :
    let ts := [.text "\x7b",
      .placeholder ⟨"Name", "", some "\x7b,:x", some ⟨.left, 2147483647, by decide⟩, .destructure⟩,
      .placeholder ⟨"0", "", none, none, .default⟩, .text "a\x7d"]
    (ts ≠ [] ∧ (∀ t ∈ ts, t.Writable) ∧ ts.IsChain Token.Separate) ∧
      tokenize "\x7b\x7b\x7b@Name,-2147483647:\x7b,:x\x7d\x7b0\x7da\x7d\x7d" =
        ts.map Token.recorded := by
  intro ts
  have ne : ts ≠ [] := by decide
  have writable : ∀ t ∈ ts, t.Writable := by decide
  have separate : ts.IsChain Token.Separate := by decide
  refine ⟨⟨ne, writable, separate⟩, ?_⟩
  have reading := tokenize_written ne writable separate
  have source : written ts = "\x7b\x7b\x7b@Name,-2147483647:\x7b,:x\x7d\x7b0\x7da\x7d\x7d" := by
    decide +kernel
  rwa [source] at reading

end Template

end StructuredLog

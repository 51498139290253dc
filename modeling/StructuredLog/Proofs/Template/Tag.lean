import StructuredLog.Proofs.Template.Scan

/-!
The grammar of tags: `[@|$] name [, [-] digits] [: format]`. `Tag` holds the parts as they are
written, each of the shape that its place asks for. A text is read as a placeholder exactly when it
is the text of such parts, and the placeholder then has these parts.
-/

namespace StructuredLog.Template

open Text

/-- A width as written after the comma: leading zeros count for nothing. -/
structure Width where
  side : Side
  digits : List Char
  digits_ne_nil : digits ≠ []
  isDigit : ∀ d ∈ digits, d.isDigit = true
  pos : 0 < Nat.ofDigitChars 10 digits 0
  le : Nat.ofDigitChars 10 digits 0 ≤ 0x7fffffff

def Width.text (w : Width) : List Char :=
  match w.side with
  | .left => '-' :: w.digits
  | .right => w.digits

def Width.alignment (w : Width) : Alignment :=
  ⟨w.side, Nat.ofDigitChars 10 w.digits 0, le_maxWidth w.le⟩

/-- The parts of a tag. An empty format may be written and means none. -/
structure Tag where
  hint : Hint
  name : List Char
  width : Option Width
  format : Option (List Char)
  name_ne_nil : name ≠ []
  name_chars : ∀ c ∈ name, isNameChar c = true
  format_chars : ∀ f ∈ format, ∀ c ∈ f, isFormatChar c = true

namespace Tag

def marked (t : Tag) : List Char := t.hint.mark?.toList ++ t.name

/-- An optional part with the separator that announces it. -/
def after (separator : Char) (part : Option (List Char)) : List Char :=
  match part with
  | some cs => separator :: cs
  | none => []

/-- What stands between the braces. -/
def text (t : Tag) : List Char :=
  t.marked ++ after ',' (t.width.map Width.text) ++ after ':' t.format

def placeholder (t : Tag) : Placeholder where
  name := String.ofList t.name
  source := String.ofList ('{' :: t.text ++ ['}'])
  format := (t.format.filter (· ≠ [])).map String.ofList
  alignment := t.width.map Width.alignment
  hint := t.hint

end Tag

/-! ### Reading what is written -/

theorem Hint.ofMark?_eq_none_of_isNameChar {c : Char} (h : isNameChar c = true) :
    Hint.ofMark? c = none := by
  have notAt : c ≠ '@' := ne_of_isNameChar h (by decide)
  have notDollar : c ≠ '$' := ne_of_isNameChar h (by decide)
  unfold Hint.ofMark?
  split <;> first | contradiction | rfl

theorem splitMark_marked (t : Tag) : splitMark t.marked = (t.hint, t.name) := by
  obtain ⟨c, rest, name⟩ := List.exists_cons_of_ne_nil t.name_ne_nil
  have notMark : Hint.ofMark? c = none :=
    Hint.ofMark?_eq_none_of_isNameChar (t.name_chars c (by simp [name]))
  unfold Tag.marked
  cases t.hint with
  | default => simp [Hint.mark?, name, splitMark, notMark]
  | destructure => simp [Hint.mark?, splitMark, Hint.ofMark?]
  | stringify => simp [Hint.mark?, splitMark, Hint.ofMark?]

theorem Width.text_ne_nil (w : Width) : w.text ≠ [] := by
  unfold Width.text
  split
  · simp
  · exact w.digits_ne_nil

theorem width?_eq_some_iff {side : Side} {digits : List Char} {a : Alignment} :
    width? side digits = some a ↔
      ∃ w : Width, w.side = side ∧ w.digits = digits ∧ w.alignment = a := by
  simp only [width?, Option.bind_eq_some_iff, nat?_eq_some_iff]
  constructor
  · rintro ⟨n, ⟨ne, isDigit, rfl⟩, h⟩
    split at h
    · next inRange =>
      cases h
      exact ⟨⟨side, digits, ne, isDigit, inRange.1, inRange.2⟩, rfl, rfl, rfl⟩
    · contradiction
  · rintro ⟨w, rfl, rfl, rfl⟩
    exact ⟨_, ⟨w.digits_ne_nil, w.isDigit, rfl⟩, dif_pos ⟨w.pos, w.le⟩⟩

theorem alignment?_text (w : Width) : alignment? w.text = some w.alignment := by
  unfold Width.text
  cases side : w.side with
  | left => exact width?_eq_some_iff.mpr ⟨w, side, rfl, rfl⟩
  | right =>
    obtain ⟨d, rest, digits⟩ := List.exists_cons_of_ne_nil w.digits_ne_nil
    have notDash : d ≠ '-' := by
      rintro rfl
      have := w.isDigit '-' (by simp [digits])
      contradiction
    have noDash : alignment? w.digits = width? .right w.digits := by
      rw [digits, alignment?]
      exact fun _ dash => notDash (List.cons.inj dash).1
    exact noDash.trans (width?_eq_some_iff.mpr ⟨w, side, rfl, rfl⟩)

/-! The separators are met where they were written, since no part before them holds one. -/

theorem Tag.marked_ne {t : Tag} {d c : Char} (notName : isNameChar d = false)
    (notMark : Hint.ofMark? d = none) (mem : c ∈ t.marked) : c ≠ d := by
  rcases List.mem_append.mp mem with mark | name
  · rw [Option.mem_toList, Hint.mark?_eq_some_iff] at mark
    rintro rfl
    rw [notMark] at mark
    contradiction
  · exact ne_of_isNameChar (t.name_chars c name) notName

theorem Width.isNameChar_or_dash {w : Width} {c : Char} (mem : c ∈ w.text) :
    isNameChar c = true ∨ c = '-' := by
  unfold Width.text at mem
  split at mem
  · rcases List.mem_cons.mp mem with rfl | digit
    · exact .inr rfl
    · exact .inl (isNameChar_of_isDigit (w.isDigit c digit))
  · exact .inl (isNameChar_of_isDigit (w.isDigit c mem))

theorem Tag.head_ne_colon {t : Tag} {c : Char}
    (mem : c ∈ t.marked ++ Tag.after ',' (t.width.map Width.text)) : c ≠ ':' := by
  rcases List.mem_append.mp mem with marked | width
  · exact Tag.marked_ne (by decide) rfl marked
  · cases h : t.width with
    | none => simp [h, Tag.after] at width
    | some w =>
      simp only [h, Option.map_some, Tag.after, List.mem_cons] at width
      rcases width with rfl | width
      · decide
      · rcases Width.isNameChar_or_dash width with name | rfl
        · exact ne_of_isNameChar name (by decide)
        · decide

theorem head?_after {d x : Char} {part : Option (List Char)}
    (mem : x ∈ (Tag.after d part).head?) : (x != d) = false := by
  cases part with
  | none => simp [Tag.after] at mem
  | some cs =>
    cases mem
    exact bne_self_eq_false d

theorem takeWhile_after {d : Char} {part : Option (List Char)} {cs : List Char}
    (h : ∀ c ∈ cs, c ≠ d) : (cs ++ Tag.after d part).takeWhile (· != d) = cs :=
  takeWhile_append_stop (by simpa using h) fun _ => head?_after

theorem dropWhile_after {d : Char} {part : Option (List Char)} {cs : List Char}
    (h : ∀ c ∈ cs, c ≠ d) : (cs ++ Tag.after d part).dropWhile (· != d) = Tag.after d part :=
  dropWhile_append_stop (by simpa using h) fun _ => head?_after

theorem tagParts?_text (t : Tag) :
    tagParts? t.text =
      some (t.marked, t.width.map Width.text, t.format.filter (· ≠ [])) := by
  have colon : ∀ c ∈ t.marked ++ Tag.after ',' (t.width.map Width.text), c ≠ ':' :=
    fun c => Tag.head_ne_colon
  have comma : ∀ c ∈ t.marked, c ≠ ',' := fun c => Tag.marked_ne (by decide) rfl
  unfold tagParts? Tag.text
  simp only [takeWhile_after colon, dropWhile_after colon, takeWhile_after comma,
    dropWhile_after comma]
  cases t.width with
  | none => rcases t.format with _ | _ | ⟨x, f⟩ <;> simp [Tag.after, Option.filter]
  | some w =>
    obtain ⟨d, rest, width⟩ := List.exists_cons_of_ne_nil w.text_ne_nil
    rcases t.format with _ | _ | ⟨x, f⟩ <;> simp [Tag.after, Option.filter, width]

theorem format_all {format : Option (List Char)} :
    ((format.filter (· ≠ [])).getD []).all isFormatChar = true ↔
      ∀ f ∈ format, ∀ c ∈ f, isFormatChar c = true := by
  rcases format with _ | _ | ⟨x, f⟩ <;> simp [Option.filter]

/-- The text of a tag is read as a placeholder with the same parts. -/
theorem placeholder?_text (t : Tag) : placeholder? t.text = some t.placeholder := by
  have shape : t.name ≠ [] ∧ t.name.all isNameChar = true ∧
      ((t.format.filter (· ≠ [])).getD []).all isFormatChar = true :=
    ⟨t.name_ne_nil, List.all_eq_true.mpr t.name_chars, format_all.mpr t.format_chars⟩
  unfold placeholder?
  simp only [tagParts?_text, splitMark_marked, Option.bind_eq_bind, Option.bind_some, guard,
    if_pos shape]
  cases h : t.width with
  | none => simp [Tag.placeholder, h]
  | some w => simp [Tag.placeholder, h, alignment?_text]

/-! ### What is read was written -/

theorem exists_after (d : Char) (cs : List Char) :
    ∃ part, cs.dropWhile (· != d) = Tag.after d part ∧
      cs = cs.takeWhile (· != d) ++ Tag.after d part := by
  induction cs with
  | nil => exact ⟨none, rfl, rfl⟩
  | cons c cs ih =>
    by_cases h : c = d
    · subst h
      exact ⟨some cs, by simp [Tag.after], by simp [Tag.after]⟩
    · obtain ⟨part, rest, whole⟩ := ih
      refine ⟨part, ?_, ?_⟩
      · rw [List.dropWhile_cons_of_pos (by simpa using h), rest]
      · rw [List.takeWhile_cons_of_pos (by simpa using h), List.cons_append, ← whole]

theorem tagParts?_eq_some {content marked : List Char} {width format : Option (List Char)}
    (h : tagParts? content = some (marked, width, format)) :
    ∃ written, content = marked ++ Tag.after ',' width ++ Tag.after ':' written ∧
      written.filter (· ≠ []) = format := by
  obtain ⟨written, afterHead, whole⟩ := exists_after ':' content
  obtain ⟨part, afterMarked, head⟩ := exists_after ',' (content.takeWhile (· != ':'))
  unfold tagParts? at h
  simp only [afterHead, afterMarked] at h
  rw [head] at whole
  refine ⟨written, ?_⟩
  rcases part with _ | _ | ⟨x, part⟩
  · have same : content.takeWhile (· != ':') =
        (content.takeWhile (· != ':')).takeWhile (· != ',') := by
      simpa [Tag.after] using head
    rcases written with _ | _ | ⟨y, written⟩ <;>
      simp only [Tag.after, Option.some.injEq, Prod.mk.injEq] at h <;>
      obtain ⟨rfl, rfl, rfl⟩ := h <;>
      refine ⟨by rw [same]; exact whole, by simp [Option.filter]⟩
  · simp [Tag.after] at h
  · rcases written with _ | _ | ⟨y, written⟩ <;>
      simp only [Tag.after, Option.some.injEq, Prod.mk.injEq] at h <;>
      obtain ⟨rfl, rfl, rfl⟩ := h <;>
      exact ⟨whole, by simp [Option.filter]⟩

theorem eq_of_splitMark {cs name : List Char} {hint : Hint} (h : splitMark cs = (hint, name)) :
    cs = hint.mark?.toList ++ name := by
  cases cs with
  | nil =>
    cases h
    rfl
  | cons c cs =>
    rw [splitMark] at h
    split at h
    · next mark =>
      cases h
      rw [Hint.mark?_eq_some_iff.mpr mark]
      rfl
    · cases h
      rfl

theorem alignment?_eq_some {cs : List Char} {a : Alignment} (h : alignment? cs = some a) :
    ∃ w : Width, w.text = cs ∧ w.alignment = a := by
  unfold alignment? at h
  split at h
  · obtain ⟨w, side, rfl, alignment⟩ := width?_eq_some_iff.mp h
    exact ⟨w, by rw [Width.text, side], alignment⟩
  · obtain ⟨w, side, rfl, alignment⟩ := width?_eq_some_iff.mp h
    exact ⟨w, by rw [Width.text, side], alignment⟩

/-- The grammar is sound and complete, and each text has one reading by it. -/
theorem placeholder?_eq_some_iff {content : List Char} {p : Placeholder} :
    placeholder? content = some p ↔ ∃ t : Tag, t.text = content ∧ t.placeholder = p := by
  constructor
  · intro h
    simp only [placeholder?, Option.bind_eq_bind, Option.bind_eq_some_iff] at h
    obtain ⟨⟨marked, part, format⟩, parts, h⟩ := h
    obtain ⟨written, rfl, rfl⟩ := tagParts?_eq_some parts
    rcases split : splitMark marked with ⟨hint, name⟩
    simp only [split] at h
    obtain ⟨_, shape, h⟩ := h
    obtain ⟨name_ne_nil, nameChars, formatChars⟩ := (Option.guard_eq_some' _).mp shape
    have name_chars := List.all_eq_true.mp nameChars
    have format_chars := format_all.mp formatChars
    obtain rfl := eq_of_splitMark split
    cases part with
    | none =>
      cases h
      exact ⟨⟨hint, name, none, written, name_ne_nil, name_chars, format_chars⟩, rfl, rfl⟩
    | some w =>
      simp only [Option.bind_eq_some_iff, Option.map_eq_some_iff] at h
      obtain ⟨_, ⟨a, width, rfl⟩, h⟩ := h
      cases h
      obtain ⟨w, rfl, rfl⟩ := alignment?_eq_some width
      exact ⟨⟨hint, name, some w, written, name_ne_nil, name_chars, format_chars⟩, rfl, rfl⟩
  · rintro ⟨t, rfl, rfl⟩
    exact placeholder?_text t

/-! ### Tags in a template -/

theorem isTagChar_of_mem_after {d : Char} {part : Option (List Char)}
    (separator : isTagChar d = true) (chars : ∀ cs ∈ part, ∀ c ∈ cs, isTagChar c = true)
    {c : Char} (mem : c ∈ Tag.after d part) : isTagChar c = true := by
  cases part with
  | none => simp [Tag.after] at mem
  | some cs =>
    rcases List.mem_cons.mp mem with rfl | mem
    · exact separator
    · exact chars cs rfl c mem

theorem Tag.isTagChar_of_mem_text {t : Tag} {c : Char} (mem : c ∈ t.text) :
    isTagChar c = true := by
  simp only [Tag.text, List.mem_append] at mem
  rcases mem with (marked | width) | format
  · rcases List.mem_append.mp marked with mark | name
    · rw [Option.mem_toList, Hint.mark?_eq_some_iff] at mark
      simp [isTagChar, mark]
    · exact isTagChar_of_isNameChar (t.name_chars c name)
  · refine isTagChar_of_mem_after (by decide) ?_ width
    intro cs isWidth x mem
    obtain ⟨w, _, rfl⟩ := Option.map_eq_some_iff.mp isWidth
    rcases Width.isNameChar_or_dash mem with name | rfl
    · exact isTagChar_of_isNameChar name
    · decide
  · refine isTagChar_of_mem_after (by decide) ?_ format
    exact fun f mem x inFormat => isTagChar_of_isFormatChar (t.format_chars f mem x inFormat)

theorem Tag.head_text_ne (t : Tag) : t.text.head? ≠ some '{' := by
  obtain ⟨c, rest, marked⟩ : ∃ c rest, t.marked = c :: rest :=
    List.exists_cons_of_ne_nil (by simp [Tag.marked, t.name_ne_nil])
  have notOpening : c ≠ '{' := Tag.marked_ne (t := t) (by decide) rfl (by simp [marked])
  simp [Tag.text, marked, notOpening]

/-- The tokens of what is left of a template, none at its end. -/
def tokensOf (r : List Char) : List Token :=
  if r = [] then [] else tokenize (String.ofList r)

theorem scan_eq_tokensOf (r : List Char) : scan r = tokensOf r := by
  unfold tokensOf
  split
  · next empty => rw [empty, scan]
  · next ne => exact (tokenize_ofList ne).symm

theorem tagToken_text (t : Tag) : tagToken t.text = .placeholder t.placeholder := by
  simp [tagToken, placeholder?_text]

theorem tagToken_of_no_tag {c : List Char} (h : ¬∃ t : Tag, t.text = c) :
    tagToken c = .text (String.ofList ('{' :: (c ++ ['}']))) := by
  have unread : placeholder? c = none := by
    rw [Option.eq_none_iff_forall_not_mem]
    exact fun p read => h ((placeholder?_eq_some_iff.mp read).imp fun _ e => e.1)
  simp [tagToken, unread]

theorem exists_stop {p : Char → Bool} {cs : List Char} (h : ∃ x ∈ cs, p x = false) :
    ∃ u x v, cs = u ++ x :: v ∧ (∀ y ∈ u, p y = true) ∧ p x = false := by
  obtain ⟨u, r, rfl, before, stop⟩ := exists_span p cs
  cases r with
  | nil =>
    obtain ⟨x, mem, fail⟩ := h
    rw [List.append_nil] at mem
    rw [before x mem] at fail
    contradiction
  | cons x v => exact ⟨u, x, v, rfl, before, stop x rfl⟩

/-- The first token where a single brace opens, and where scanning goes on after it. What stands up
to the next closing brace is one tag or one text, unless a character that no tag holds breaks it. -/
theorem tokenize_tag {c r : List Char} (noClose : '}' ∉ c) (single : c.head? ≠ some '{') :
    ((∀ x ∈ c, isTagChar x = true) →
      ∃ first, tokenize (String.ofList ('{' :: (c ++ '}' :: r))) = first :: tokensOf r ∧
        ((∃ p, first = .placeholder p) ↔ ∃ t : Tag, t.text = c) ∧
        (∀ t : Tag, t.text = c → first = .placeholder t.placeholder) ∧
        ((¬∃ t : Tag, t.text = c) → first = .text (String.ofList ('{' :: (c ++ ['}']))))) ∧
    ((∃ x ∈ c, isTagChar x = false) →
      ∃ u x v, c = u ++ x :: v ∧ (∀ y ∈ u, isTagChar y = true) ∧ isTagChar x = false ∧
        tokenize (String.ofList ('{' :: (c ++ '}' :: r))) =
          .text (String.ofList ('{' :: u)) ::
            tokenize (String.ofList (x :: (v ++ '}' :: r)))) := by
  rw [tokenize_ofList (by simp)]
  constructor
  · intro inTag
    refine ⟨tagToken c, ?_, ⟨?_, ?_⟩, ?_, tagToken_of_no_tag⟩
    · rw [scan_closed inTag single, scan_eq_tokensOf]
    · rintro ⟨p, read⟩
      by_cases grammatical : ∃ t : Tag, t.text = c
      · exact grammatical
      · rw [tagToken_of_no_tag grammatical] at read
        contradiction
    · rintro ⟨t, rfl⟩
      exact ⟨t.placeholder, tagToken_text t⟩
    · rintro t rfl
      exact tagToken_text t
  · intro breaks
    obtain ⟨u, x, v, rfl, before, stop⟩ := exists_stop breaks
    refine ⟨u, x, v, rfl, before, stop, ?_⟩
    have notClosing : x ≠ '}' := by
      rintro rfl
      simp at noClose
    have single : u.head? ≠ some '{' := by
      cases u <;> simp_all
    have breaking : ∀ y ∈ (x :: (v ++ '}' :: r)).head?, isTagChar y = false ∧ y ≠ '}' := by
      rintro y ⟨⟩
      exact ⟨stop, notClosing⟩
    rw [tokenize_ofList (by simp), List.append_assoc, List.cons_append,
      scan_broken before breaking single]

theorem tokenize_elapsed_tag :
    '}' ∉ "@Elapsed,-007:\x7bx,y:z".toList ∧
      "@Elapsed,-007:\x7bx,y:z".toList.head? ≠ some '{' ∧
      tokenize "\x7b@Elapsed,-007:\x7bx,y:z\x7d\x7d\x7d" =
        [.placeholder ⟨"Elapsed", "\x7b@Elapsed,-007:\x7bx,y:z\x7d", some "\x7bx,y:z",
          some ⟨.left, 7, by decide⟩, .destructure⟩, .text "\x7d"] := by
  have noClose : '}' ∉ "@Elapsed,-007:\x7bx,y:z".toList := by decide +kernel
  have single : "@Elapsed,-007:\x7bx,y:z".toList.head? ≠ some '{' := by decide
  have nameChars : "Elapsed".toList.all isNameChar = true := by decide
  have digits : "007".toList.all Char.isDigit = true := by decide
  have formatChars : "\x7bx,y:z".toList.all isFormatChar = true := by decide
  have inTag : "@Elapsed,-007:\x7bx,y:z".toList.all isTagChar = true := by decide
  obtain ⟨first, tokens, -, isTag, -⟩ :=
    (tokenize_tag (r := "\x7d\x7d".toList) noClose single).1 (List.all_eq_true.mp inTag)
  have tag := isTag ⟨.destructure, "Elapsed".toList,
    some ⟨.left, "007".toList, by decide, List.all_eq_true.mp digits, by decide, by decide⟩,
    some "\x7bx,y:z".toList, by decide, List.all_eq_true.mp nameChars,
    fun _ isFormat => Option.some.inj isFormat ▸ List.all_eq_true.mp formatChars⟩ rfl
  rw [tag] at tokens
  refine ⟨noClose, single, tokens.trans ?_⟩
  cbv

end StructuredLog.Template

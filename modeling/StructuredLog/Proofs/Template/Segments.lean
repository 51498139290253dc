import StructuredLog.Message.Text
import StructuredLog.Output.Sink
import StructuredLog.Proofs.Template.Tag

/-!
Tokens cut a template into segments, one after the other, so that nothing of it is lost and nothing
is added. A placeholder and a broken tag stand for their segment as it is, a text run for its
segment with doubled braces undone. A template without doubled braces that finds no properties is
therefore rendered as itself.
-/

namespace StructuredLog

namespace Template

/-- What a text run stands for, read from left to right: two equal braces are one, and any other
character is itself. A single opening brace is in no text run. -/
inductive Undoubles : List Char → List Char → Prop
  | nil : Undoubles [] []
  | pair {b cs text} : b = '{' ∨ b = '}' → Undoubles cs text →
      Undoubles (b :: b :: cs) (b :: text)
  | loneClose {cs text} : cs.head? ≠ some '}' → Undoubles cs text →
      Undoubles ('}' :: cs) ('}' :: text)
  | other {c cs text} : c ≠ '{' → c ≠ '}' → Undoubles cs text →
      Undoubles (c :: cs) (c :: text)

/-- The segment of a template that a token stands for. -/
inductive Covers : Token → List Char → Prop
  | tag {p : Placeholder} {segment} : p.source = String.ofList segment →
      Covers (.placeholder p) segment
  | broken {segment} : opensTag segment = true → Covers (.text (String.ofList segment)) segment
  | run {segment text} : Undoubles segment text → Covers (.text (String.ofList text)) segment

theorem literal_undoubles (cs : List Char) :
    ∃ run, cs = run ++ (literal cs).2 ∧ Undoubles run (literal cs).1 := by
  fun_induction literal cs with
  | case1 => exact ⟨[], rfl, .nil⟩
  | case2 rest p ih =>
    obtain ⟨run, whole, undone⟩ := ih
    exact ⟨'{' :: '{' :: run, by simpa using whole, .pair (.inl rfl) undone⟩
  | case3 rest => exact ⟨[], rfl, .nil⟩
  | case4 rest p ih =>
    obtain ⟨run, whole, undone⟩ := ih
    exact ⟨'}' :: '}' :: run, by simpa using whole, .pair (.inr rfl) undone⟩
  | case5 c rest _ notOpening notPair p ih =>
    obtain ⟨run, whole, undone⟩ := ih
    refine ⟨c :: run, by simpa using whole, ?_⟩
    by_cases closing : c = '}'
    · subst closing
      refine .loneClose (fun doubled => ?_) undone
      obtain ⟨run', rfl⟩ := List.head?_eq_some_iff.mp doubled
      exact notPair _ rfl whole
    · exact .other notOpening closing undone

theorem tagToken_covers {content : List Char} (single : content.head? ≠ some '{') :
    Covers (tagToken content) ('{' :: (content ++ ['}'])) := by
  unfold tagToken
  split
  · next p read =>
    obtain ⟨t, rfl, rfl⟩ := placeholder?_eq_some_iff.mp read
    exact .tag rfl
  · exact .broken (opensTag_append single (by simp))

/-- What may stand in a tag after its opening brace, and what is left. -/
theorem exists_content {cs : List Char} (opened : opensTag cs = true) :
    ∃ content r, cs = '{' :: (content ++ r) ∧ (∀ c ∈ content, isTagChar c = true) ∧
      content.head? ≠ some '{' ∧ ∀ x ∈ r.head?, isTagChar x = false := by
  obtain ⟨rest, rfl, single⟩ := opensTag_eq_true opened
  obtain ⟨content, r, rfl, inTag, stop⟩ := Text.exists_span isTagChar rest
  refine ⟨content, r, rfl, inTag, ?_, stop⟩
  intro doubled
  obtain ⟨more, rfl⟩ := List.head?_eq_some_iff.mp doubled
  exact single rfl

/-- Scanning cuts its input into the segments of its tokens. -/
theorem scan_covers (cs : List Char) :
    ∃ segments : List (List Char), segments.flatten = cs ∧
      List.Forall₂ Covers (scan cs) segments ∧ ∀ segment ∈ segments, segment ≠ [] := by
  induction h : cs.length using Nat.strong_induction_on generalizing cs with
  | _ n ih =>
  by_cases empty : cs = []
  · exact ⟨[], by simp [empty], by rw [empty, scan]; exact .nil, by simp⟩
  -- In every case the first segment is not empty, and the induction hypothesis covers the rest.
  suffices ∃ segment token rest, segment ≠ [] ∧ Covers token segment ∧ cs = segment ++ rest ∧
      scan cs = token :: scan rest by
    obtain ⟨segment, token, rest, ne, cover, rfl, scanned⟩ := this
    have shorter : rest.length < n := by
      have := List.length_pos_iff.mpr ne
      rw [List.length_append] at h
      omega
    obtain ⟨segments, rfl, covers, nes⟩ := ih _ shorter rest rfl
    refine ⟨segment :: segments, rfl, ?_, by simpa [ne] using nes⟩
    rw [scanned]
    exact .cons cover covers
  by_cases opened : opensTag cs = true
  · obtain ⟨content, r, rfl, inTag, single, stop⟩ := exists_content opened
    by_cases closed : ∃ after, r = '}' :: after
    · obtain ⟨after, rfl⟩ := closed
      exact ⟨_, _, after, by simp, tagToken_covers single, by simp, scan_closed inTag single⟩
    · have broken : ∀ x ∈ r.head?, isTagChar x = false ∧ x ≠ '}' := by
        refine fun x mem => ⟨stop x mem, ?_⟩
        rintro rfl
        exact closed ((List.head?_eq_some_iff).mp mem)
      exact ⟨'{' :: content, _, r, by simp, .broken (opensTag_cons.mpr single), by simp,
        scan_broken inTag broken single⟩
  · have text : opensTag cs = false := by simpa using opened
    obtain ⟨run, cut, undone⟩ := literal_undoubles cs
    refine ⟨run, _, (literal cs).2, ?_, .run undone, cut, scan_literal text empty⟩
    rintro rfl
    obtain ⟨c, rest, rfl⟩ := List.exists_cons_of_ne_nil empty
    have := literal_length_lt text
    rw [← List.nil_append (literal _).2, ← cut] at this
    omega

/-- Every brace stands alone. -/
def Undoubled (cs : List Char) : Prop := ¬['{', '{'] <:+: cs ∧ ¬['}', '}'] <:+: cs

instance (cs : List Char) : Decidable (Undoubled cs) :=
  inferInstanceAs (Decidable (¬['{', '{'] <:+: cs ∧ ¬['}', '}'] <:+: cs))

theorem Undoubled.part {cs ds : List Char} (h : Undoubled cs) (within : ds <:+: cs) :
    Undoubled ds :=
  ⟨fun pair => h.1 (pair.trans within), fun pair => h.2 (pair.trans within)⟩

theorem Undoubles.eq_of_undoubled {cs text : List Char} (h : Undoubles cs text)
    (alone : Undoubled cs) : text = cs := by
  induction h with
  | nil => rfl
  | @pair b cs text brace rest ih =>
    have doubled : [b, b] <:+: b :: b :: cs := ⟨[], cs, rfl⟩
    rcases brace with rfl | rfl
    · exact absurd doubled alone.1
    · exact absurd doubled alone.2
  | @loneClose cs text notDoubled rest ih =>
    rw [ih (alone.part (List.suffix_cons _ _).isInfix)]
  | @other c cs text notOpening notClosing rest ih =>
    rw [ih (alone.part (List.suffix_cons _ _).isInfix)]

theorem Covers.source_eq {t : Token} {segment : List Char} (h : Covers t segment)
    (alone : Undoubled segment) : t.source = String.ofList segment := by
  cases h with
  | tag source => exact source
  | broken => rfl
  | run undone => rw [Token.source, undone.eq_of_undoubled alone]

theorem join_sources {ts : List Token} {segments : List (List Char)}
    (covers : List.Forall₂ Covers ts segments) (alone : Undoubled segments.flatten) :
    String.join (ts.map Token.source) = String.ofList segments.flatten := by
  induction covers with
  | nil => rfl
  | @cons t segment ts segments cover covers ih =>
    rw [List.flatten_cons] at alone
    have first := cover.source_eq (alone.part (List.prefix_append _ _).isInfix)
    have rest := ih (alone.part (List.suffix_append _ _).isInfix)
    simp [first, rest, String.ofList_append]

end Template

/-- Without properties every token is rendered as it stands in the template. -/
theorem Token.inMessage_empty (flags : MessageFlags) (provider : Provider) (t : Token) :
    t.inMessage flags provider {} = t.source := by
  cases t <;> rfl

namespace Template

/-- The segments of a template are its tokens' and nothing else; only the empty template has an
empty one. Where no brace is doubled and no property is found, rendering gives the template back. -/
theorem tokenize_segments (s : String) :
    (∃ segments : List (List Char), segments.flatten = s.toList ∧
      List.Forall₂ Covers (tokenize s) segments ∧
      (s ≠ "" → ∀ segment ∈ segments, segment ≠ [])) ∧
    (s = "" → tokenize s = [.text ""]) ∧
    (Undoubled s.toList → ∀ (flags : MessageFlags) (provider : Provider) (before : String),
      Sink.writeEach ⟨none, before⟩ ((Template.parse s).message flags provider {}) =
        (⟨none, before ++ s⟩, true)) := by
  have segmented : ∃ segments : List (List Char), segments.flatten = s.toList ∧
      List.Forall₂ Covers (tokenize s) segments ∧
      (s ≠ "" → ∀ segment ∈ segments, segment ≠ []) := by
    by_cases empty : s = ""
    · subst empty
      exact ⟨[[]], rfl, .cons (.run .nil) .nil, by simp⟩
    · obtain ⟨segments, whole, covers, ne⟩ := scan_covers s.toList
      have scanned : tokenize s = scan s.toList := by
        rw [← tokenize_ofList (by simpa using empty), String.ofList_toList]
      exact ⟨segments, whole, scanned ▸ covers, fun _ => ne⟩
  refine ⟨segmented, ?_, ?_⟩
  · rintro rfl
    rfl
  · intro alone flags provider before
    obtain ⟨segments, whole, covers, -⟩ := segmented
    have sources : (Template.parse s).message flags provider {} =
        (tokenize s).map Token.source :=
      List.map_congr_left fun t _ => t.inMessage_empty flags provider
    rw [Sink.writeEach_none, sources, join_sources covers (whole ▸ alone), whole,
      String.ofList_toList]

theorem message_without_properties :
    Undoubled "\x7b@User,5\x7d\x7bnot<a tag\x7d \x7b".toList ∧
      Sink.writeEach ⟨none, "> "⟩
          ((parse "\x7b@User,5\x7d\x7bnot<a tag\x7d \x7b").message ⟨true, true⟩ .none {}) =
        (⟨none, "> " ++ "\x7b@User,5\x7d\x7bnot<a tag\x7d \x7b"⟩, true) := by
  have alone : Undoubled "\x7b@User,5\x7d\x7bnot<a tag\x7d \x7b".toList := by decide +kernel
  exact ⟨alone, (tokenize_segments _).2.2 alone ⟨true, true⟩ .none "> "⟩

end Template

end StructuredLog

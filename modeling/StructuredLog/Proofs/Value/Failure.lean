import StructuredLog.Proofs.Message.Styling
import StructuredLog.Proofs.Output.Failure
import StructuredLog.Proofs.Output.Themed

/-!
Themed values on a sink that fails. All of a value's pieces are written straight to the sink, so
that the output ends where the refused character stands, and with a reset if that is in a span.
However deeply the span is nested, there is one reset and nothing else.
-/

namespace StructuredLog

open Fragment Piece

/-! ### Output that is cut -/

/-- Written between a set and a reset. -/
def Piece.isSpan : Piece → Bool
  | .span _ _ => true
  | _ => false

/-- What a theme writes after a piece has failed. -/
def Piece.resetAfter (t : Theme) (p : Piece) : String := if p.isSpan then t.reset else ""

theorem Piece.Flat.direct {p : Piece} (flat : p.Flat) (t : Theme) : p.Direct t := by
  cases p with
  | plain s => trivial
  | span style s => trivial
  | aligned a body => exact flat.elim

theorem Fragment.textAll_close (t : Theme) (fs : List Fragment) :
    textAll t (close fs) =
      textAll t fs ++ if (openAtEnd fs).isSome then t.reset else "" := by
  unfold close
  split
  · rw [textAll_append, textAll_cons, textAll_nil, text, String.append_empty]
  · rw [String.append_empty]

section Cut

variable {t : Theme} {c : Char} {ps : List Piece}

/-- The first piece that shows a character. -/
theorem Piece.exists_first (shown : c ∈ (visibleAll ps).toList) :
    ∃ done p rest, ps = done ++ p :: rest ∧ c ∉ (visibleAll done).toList ∧
      c ∈ p.visible.toList := by
  induction ps with
  | nil => contradiction
  | cons p ps ih =>
    by_cases here : c ∈ p.visible.toList
    · exact ⟨[], p, ps, rfl, List.not_mem_nil, here⟩
    · rw [visibleAll, String.toList_append, List.mem_append] at shown
      obtain ⟨done, q, rest, split, before, first⟩ := ih (shown.resolve_left here)
      refine ⟨p :: done, q, rest, by rw [split, List.cons_append], ?_, first⟩
      rw [visibleAll, String.toList_append, List.mem_append, not_or]
      exact ⟨here, before⟩

theorem Piece.isSome_openAtEnd_upTo {p : Piece} (flat : p.Flat) (shown : c ∈ p.visible.toList) :
    (openAtEnd (upTo c (p.fragments t))).isSome = p.isSpan := by
  have stopped (s : String) (mem : c ∈ s.toList) : ¬Sink.takes (some c) s = true :=
    Bool.eq_false_iff.mp (Sink.takes_some_eq_false.mpr mem)
  cases p with
  | plain s => rw [fragments, upTo, if_neg (stopped s shown)]; rfl
  | span style s => rw [fragments, upTo, upTo, if_neg (stopped s shown)]; rfl
  | aligned a body => exact flat.elim

/-- What is open where the output is cut is what the first piece that shows the character opens. -/
theorem Piece.openAtEnd_upTo_first {p : Piece} {done rest : List Piece}
    (flat : AllFlat (done ++ p :: rest)) (before : c ∉ (visibleAll done).toList)
    (first : c ∈ p.visible.toList) :
    (openAtEnd (upTo c (fragmentsAll t (done ++ p :: rest)))).isSome = p.isSpan := by
  obtain ⟨flatDone, flatHere, -⟩ : AllFlat done ∧ p.Flat ∧ AllFlat rest := by
    simpa only [allFlat_append, allFlat_cons] using flat
  have passed : Sink.takes (some c) (seen t (fragmentsAll t done)) = true := by
    rw [seen_fragmentsAll t done (flatDone.fitsAll t)]
    exact Sink.takes_some.mpr before
  have failed : ¬Sink.takes (some c) (seen t (p.fragments t)) = true := by
    have alone : AllFlat [p] := (allFlat_cons p []).mpr ⟨flatHere, allFlat_nil⟩
    rw [seen_fragments t p (alone.fitsAll t).1]
    exact Bool.eq_false_iff.mp (Sink.takes_some_eq_false.mpr first)
  rw [fragmentsAll_append, fragmentsAll, upTo_append t, if_pos passed,
    (spans_fragmentsAll t done).openAtEnd_append, upTo_append t, if_neg failed]
  exact isSome_openAtEnd_upTo flatHere first

section Flat

variable (quiet : t.Quiet c) (flat : AllFlat ps) (before : String)
include quiet flat

/-- Pieces without alignment fail just if the refused character is seen in them. -/
theorem Piece.writeAll_flat :
    writeAll t ps ⟨some c, before⟩ =
      (⟨some c, before ++ textAll t (close (upTo c (fragmentsAll t ps)))⟩,
        Sink.takes (some c) (visibleAll ps)) := by
  have direct : ∀ p ∈ ps, p.Direct t := fun p mem => (flat p mem).direct t
  have stops := stops_writeAll quiet ps direct before
  rwa [seen_fragmentsAll t ps (flat.fitsAll t)] at stops

theorem Piece.received_of_not_shown (unseen : c ∉ (visibleAll ps).toList) :
    (writeAll t ps ⟨some c, before⟩).1.received = before ++ styledAll t ps := by
  have taken : Sink.takes (some c) (seen t (fragmentsAll t ps)) = true := by
    rw [seen_fragmentsAll t ps (flat.fitsAll t)]
    exact Sink.takes_some.mpr unseen
  rw [writeAll_flat quiet flat, upTo_of_takes taken, (spans_fragmentsAll t ps).close_eq,
    textAll_fragmentsAll]

theorem Piece.received_of_first {done rest : List Piece} {p : Piece}
    (split : ps = done ++ p :: rest) (fresh : c ∉ (visibleAll done).toList)
    (first : c ∈ p.visible.toList) :
    (writeAll t ps ⟨some c, before⟩).1.received =
      before ++ (Sink.delivered (some c) (styledAll t ps) ++ p.resetAfter t) := by
  rw [writeAll_flat quiet flat, textAll_close, textAll_upTo quiet, textAll_fragmentsAll]
  subst split
  rw [openAtEnd_upTo_first flat fresh first, resetAfter]

end Flat

end Cut

/-! ### Values -/

/-- A themed value, in either form, fails just if the refused character is in its visible text. What
is left then is the output of a sink that takes everything, cut before the character, and one reset
if the piece that the character is in is a span. -/
theorem Value.themed_failure {theme : Theme} {c : Char} (quiet : theme.Quiet c) (form : ValueForm)
    (provider : Provider) (format : Option String) (literal : Bool) (v : Value) (before : String) :
    let write (t : Theme) (k : Sink) := v.themedWriter form t provider format literal k
    let pieces := v.pieces form provider format literal
    let full := (write theme {}).1.received
    let visible := (write Theme.plain {}).1.received
    let failing := write theme ⟨some c, before⟩
    full = styledAll theme pieces ∧ visible = visibleAll pieces ∧
    (failing.2 = none ↔ c ∈ visible.toList) ∧
    (failing.2 ≠ none → failing.1.received = before ++ full) ∧
    (failing.2 = none → ∃ done p rest, pieces = done ++ p :: rest ∧
      c ∉ (visibleAll done).toList ∧ c ∈ p.visible.toList ∧
      failing.1.received = before ++ (Sink.delivered (some c) full ++ p.resetAfter theme)) := by
  intro write pieces full visible failing
  have written (t : Theme) := v.writes_pieces form t provider format literal
  have flat : AllFlat pieces := v.allFlat_pieces form provider format literal
  have fullText : full = styledAll theme pieces := by
    simp only [full, write, (written _).write_none, String.empty_append, pieces]
  have visibleText : visible = visibleAll pieces := by
    simp only [visible, write, (written _).write_none, String.empty_append, pieces]
    exact styledAll_plain _
  have left : failing.1 = (writeAll theme pieces ⟨some c, before⟩).1 := (written theme).fst_eq _
  have outcome : failing.2 = none ↔ c ∈ visible.toList := by
    rw [(written theme).snd_eq_none_iff, writeAll_flat quiet flat, visibleText,
      Sink.takes_some_eq_false]
  refine ⟨fullText, visibleText, outcome, ?_, ?_⟩
  · intro succeeded
    rw [ne_eq, outcome, visibleText] at succeeded
    rw [left, fullText]
    exact received_of_not_shown quiet flat before succeeded
  · intro failed
    rw [outcome, visibleText] at failed
    obtain ⟨done, p, rest, split, fresh, first⟩ := exists_first failed
    refine ⟨done, p, rest, split, fresh, first, ?_⟩
    rw [left, fullText]
    exact received_of_first quiet flat before split fresh first

/-- In a span the reset follows, and in the space after a tag nothing does. -/
theorem Value.failed_record :
    let theme := Theme.ansi [(.name, "\x1b[35m"), (.string, "\x1b[36m")]
    let v := Value.record (some "T") [("A", .scalar (.string "x!y!"))]
    let write (c : Char) := v.themedWriter .display theme .none none false ⟨some c, "> "⟩
    theme.Quiet '!' ∧ theme.Quiet ' ' ∧
      write '!' = (⟨some '!', "> \x1b[35mT\x1b[0m \x7b\x1b[0m\x1b[35mA\x1b[0m=\x1b[0m" ++
        "\x1b[36m\"x\x1b[0m"⟩, none) ∧
      write ' ' = (⟨some ' ', "> \x1b[35mT\x1b[0m"⟩, none) ∧
      ∀ c ∈ ['!', ' '], ∃ done p rest,
        v.pieces .display .none none false = done ++ p :: rest ∧ c ∈ p.visible.toList ∧
        (write c).1.received = "> " ++
          (Sink.delivered (some c) (v.themedWriter .display theme .none none false {}).1.received ++
            p.resetAfter theme) := by
  intro theme v write
  have quiet : ∀ c ∈ ['!', ' '], theme.Quiet c := by
    intro c mem
    fin_cases mem <;> exact Theme.quiet_ansi (by decide) (by decide)
  refine ⟨quiet _ (by simp), quiet _ (by simp), by decide +kernel, by decide +kernel, ?_⟩
  intro c mem
  have failed : (write c).2 = none := by fin_cases mem <;> decide +kernel
  obtain ⟨-, -, -, -, leaves⟩ :=
    v.themed_failure (quiet c mem) .display .none none false "> "
  beta_reduce at leaves
  obtain ⟨done, p, rest, split, -, first, received⟩ := leaves failed
  exact ⟨done, p, rest, split, first, received⟩

end StructuredLog

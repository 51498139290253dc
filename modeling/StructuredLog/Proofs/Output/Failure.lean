import StructuredLog.Proofs.Output.Delivery
import StructuredLog.Proofs.Output.Fragment

/-!
Styled output on a sink that fails. Pieces that are written one after the other end with the text
that was not taken, and with a reset if that text stands in a span. An aligned group that is put
together first is a single write, which ends at the refused character wherever that is.
-/

namespace StructuredLog

/-- A sink that refuses `c` takes every sequence of the theme. -/
structure Theme.Quiet (t : Theme) (c : Char) : Prop where
  escape : ∀ style, c ∉ (t.escape style).toList
  reset : c ∉ t.reset.toList

namespace Theme

variable {t : Theme} {c : Char}

theorem Quiet.set (quiet : t.Quiet c) (style : Style) {escape : String}
    (free : c ∉ escape.toList) : (t.set style escape).Quiet c := by
  refine ⟨?_, quiet.reset⟩
  intro style'
  unfold Theme.escape Theme.set
  dsimp only
  split
  · exact free
  · exact quiet.escape style'

theorem quiet_ansi {escapes : List (Style × String)} (reset : c ∉ ansiReset.toList)
    (free : ∀ e ∈ escapes, c ∉ e.2.toList) : (ansi escapes).Quiet c := by
  have unstyled : Quiet ⟨fun _ => none, ansiReset, true⟩ c := ⟨fun _ => List.not_mem_nil, reset⟩
  unfold ansi
  induction escapes using List.reverseRecOn with
  | nil => exact unstyled
  | append_singleton escapes e ih =>
    rw [List.foldl_append]
    apply Quiet.set
    · apply ih
      intro e' mem
      exact free e' (List.mem_append_left _ mem)
    · exact free e (by simp)

end Theme

namespace Fragment

/-! ### Open spans -/

/-- The style of the span that is open after a fragment. -/
def openAfter (current : Option Style) : Fragment → Option Style
  | .shown _ => current
  | .set style => some style
  | .reset => none

/-- The style of the span that is open at the end. -/
def openAtEnd (fs : List Fragment) : Option Style := fs.foldl openAfter none

/-- Resets what is open at the end. -/
def close (fs : List Fragment) : List Fragment :=
  if (openAtEnd fs).isSome then fs ++ [.reset] else fs

/-- Every escape that is written has a reset somewhere after it. -/
def Closed (t : Theme) : List Fragment → Prop
  | [] => True
  | .set style :: fs => (t.escape style ≠ "" → .reset ∈ fs) ∧ Closed t fs
  | _ :: fs => Closed t fs

/-- Shown text and whole spans. -/
inductive Spans : List Fragment → Prop where
  | nil : Spans []
  | shown (s : String) {fs : List Fragment} : Spans fs → Spans (.shown s :: fs)
  | span (style : Style) (s : String) {fs : List Fragment} :
      Spans fs → Spans (.set style :: .shown s :: .reset :: fs)

/-- What is left on a sink that refuses `c`: the fragments before the first that shows `c`, and the
text of that one as far as it is taken. -/
def upTo (c : Char) : List Fragment → List Fragment
  | [] => []
  | .shown s :: fs =>
    if Sink.takes (some c) s then .shown s :: upTo c fs
    else [.shown (Sink.delivered (some c) s)]
  | .set style :: fs => .set style :: upTo c fs
  | .reset :: fs => .reset :: upTo c fs

namespace Spans

variable {fs gs : List Fragment}

theorem append (first : Spans fs) (second : Spans gs) : Spans (fs ++ gs) := by
  induction first with
  | nil => exact second
  | shown s _ ih => exact .shown s ih
  | span style s _ ih => exact .span style s ih

theorem openAtEnd_append (spans : Spans fs) (gs : List Fragment) :
    openAtEnd (fs ++ gs) = openAtEnd gs := by
  induction spans with
  | nil => rfl
  | shown s _ ih => exact ih
  | span style s _ ih => exact ih

theorem close_append (spans : Spans fs) (gs : List Fragment) :
    close (fs ++ gs) = fs ++ close gs := by
  unfold close
  rw [spans.openAtEnd_append]
  split
  · rw [List.append_assoc]
  · rfl

theorem close_eq (spans : Spans fs) : close fs = fs := by
  have whole := spans.close_append []
  rw [List.append_nil] at whole
  rw [whole]
  exact List.append_nil fs

theorem closed_append (t : Theme) (spans : Spans fs) (gs : List Fragment) :
    Closed t (fs ++ gs) ↔ Closed t gs := by
  induction spans with
  | nil => rfl
  | shown s _ ih => exact ih
  | @span style s fs _ ih =>
    have hasReset : Fragment.reset ∈ (.shown s :: .reset :: fs) ++ gs := by simp
    constructor
    · intro closed
      exact ih.mp closed.2
    · intro closed
      exact ⟨fun _ => hasReset, ih.mpr closed⟩

theorem closed (t : Theme) (spans : Spans fs) : Closed t fs := by
  have whole := spans.closed_append t []
  rw [List.append_nil] at whole
  exact whole.mpr trivial

end Spans

/-! ### What is left on a sink -/

section Refused

variable {t : Theme} {c : Char} {fs : List Fragment}

theorem takes_seen_shown (s : String) (fs : List Fragment) :
    Sink.takes (some c) (seen t (.shown s :: fs)) =
      (Sink.takes (some c) s && Sink.takes (some c) (seen t fs)) := by
  rw [seen_shown, Sink.takes_append]

/-- What comes after the refused character leaves nothing. -/
theorem upTo_append (t : Theme) (c : Char) (fs gs : List Fragment) :
    upTo c (fs ++ gs) =
      if Sink.takes (some c) (seen t fs) then fs ++ upTo c gs else upTo c fs := by
  induction fs with
  | nil => rfl
  | cons f fs ih =>
    cases f with
    | shown s =>
      rw [List.cons_append, upTo, upTo, takes_seen_shown, ih]
      cases Sink.takes (some c) s with
      | true => rw [Bool.true_and, if_pos rfl, if_pos rfl, apply_ite (List.cons _)]; rfl
      | false => rfl
    | set style => rw [List.cons_append, upTo, upTo, seen_set, ih, apply_ite (List.cons _)]; rfl
    | reset => rw [List.cons_append, upTo, upTo, seen_reset, ih, apply_ite (List.cons _)]; rfl

theorem upTo_of_takes (taken : Sink.takes (some c) (seen t fs) = true) : upTo c fs = fs := by
  have whole := upTo_append t c fs []
  rwa [if_pos taken, upTo, List.append_nil] at whole

/-- The refused character can only be in what is seen. -/
theorem takes_textAll (quiet : t.Quiet c) (fs : List Fragment) :
    Sink.takes (some c) (textAll t fs) = Sink.takes (some c) (seen t fs) := by
  induction fs with
  | nil => rfl
  | cons f fs ih =>
    rw [textAll_cons, Sink.takes_append, ih]
    cases f with
    | shown s => rw [takes_seen_shown, text]
    | set style => rw [text, Sink.takes_some.mpr (quiet.escape style), Bool.true_and, seen_set]
    | reset => rw [text, Sink.takes_some.mpr quiet.reset, Bool.true_and, seen_reset]

/-- One write of the whole text leaves the fragments up to the refused character. -/
theorem textAll_upTo (quiet : t.Quiet c) (fs : List Fragment) :
    textAll t (upTo c fs) = Sink.delivered (some c) (textAll t fs) := by
  induction fs with
  | nil => rfl
  | cons f fs ih =>
    rw [textAll_cons]
    cases f with
    | shown s =>
      rw [upTo, text]
      split
      · next taken => rw [textAll_cons, text, ih, Sink.delivered_append_of_takes taken]
      · next failed =>
        rw [textAll_cons, text, textAll_nil, String.append_empty,
          Sink.delivered_append_of_not_takes (Bool.eq_false_iff.mpr failed)]
    | set style =>
      rw [upTo, textAll_cons, text, ih,
        Sink.delivered_append_of_takes (Sink.takes_some.mpr (quiet.escape style))]
    | reset =>
      rw [upTo, textAll_cons, text, ih,
        Sink.delivered_append_of_takes (Sink.takes_some.mpr quiet.reset)]

namespace Spans

theorem close_upTo_append (t : Theme) (spans : Spans fs) (gs : List Fragment) :
    close (upTo c (fs ++ gs)) =
      if Sink.takes (some c) (seen t fs) then fs ++ close (upTo c gs) else close (upTo c fs) := by
  rw [upTo_append t]
  split
  · rw [spans.close_append]
  · rfl

/-- What ends in an open span is whole spans again once it is reset. -/
theorem close_upTo (c : Char) (spans : Spans fs) : Spans (close (upTo c fs)) := by
  induction spans with
  | nil => exact .nil
  | @shown s fs _ ih =>
    rw [upTo]
    split
    · have rest := (Spans.shown s .nil).close_append (upTo c fs)
      exact rest ▸ .shown s ih
    · exact .shown _ .nil
  | @span style s fs _ ih =>
    rw [upTo, upTo]
    split
    · have rest := (Spans.span style s .nil).close_append (upTo c fs)
      exact rest ▸ .span style s ih
    · exact .span style _ .nil

theorem close_upTo_shown (c : Char) (s : String) :
    close (upTo c [.shown s]) = [.shown (Sink.delivered (some c) s)] := by
  rw [upTo]
  split
  · next taken => rw [Sink.delivered_of_takes taken]; rfl
  · rfl

theorem close_upTo_span (c : Char) (style : Style) (s : String) :
    close (upTo c [.set style, .shown s, .reset]) =
      [.set style, .shown (Sink.delivered (some c) s), .reset] := by
  rw [upTo, upTo]
  split
  · next taken => rw [Sink.delivered_of_takes taken]; rfl
  · rfl

/-- An escape is left without a reset just if its span is still open. -/
theorem closed_upTo (spans : Spans fs) :
    Closed t (upTo c fs) ↔ ∀ style ∈ openAtEnd (upTo c fs), t.escape style = "" := by
  induction spans with
  | nil => simp [upTo, Closed, openAtEnd]
  | shown s _ ih =>
    rw [upTo]
    split
    · exact ih
    · simp [Closed, openAtEnd, openAfter]
  | @span style s fs _ ih =>
    rw [upTo, upTo]
    split
    · have rest := (Spans.span style s .nil).closed_append t (upTo c fs)
      exact rest.trans ih
    · simp [Closed, openAtEnd, openAfter]

end Spans

end Refused

end Fragment

open Fragment

theorem Side.spans_padFragments (side : Side) (n : Nat) {fs : List Fragment} (spans : Spans fs) :
    Spans (side.padFragments n fs) := by
  cases side with
  | left => exact spans.append (.shown _ .nil)
  | right => exact .shown _ spans

mutual

theorem Piece.spans_fragments (t : Theme) : (p : Piece) → Spans (p.fragments t)
  | .plain s => .shown s .nil
  | .span style s => .span style s .nil
  | .aligned a body => a.side.spans_padFragments _ (spans_fragmentsAll t body)

theorem Piece.spans_fragmentsAll (t : Theme) : (ps : List Piece) → Spans (fragmentsAll t ps)
  | [] => .nil
  | p :: ps => (spans_fragments t p).append (spans_fragmentsAll t ps)

end

namespace Writer

/-- On a sink that refuses `c` the writer leaves `cut`, and fails just if `c` is seen in `fs`. -/
def Leaves (t : Theme) (c : Char) (w : Writer) (fs cut : List Fragment) : Prop :=
  ∀ before, w ⟨some c, before⟩ =
    (⟨some c, before ++ textAll t cut⟩, Sink.takes (some c) (seen t fs))

variable {t : Theme} {c : Char} {w w' : Writer} {fs gs cut : List Fragment}

/-- The writer ends with the text that is not taken, and resets the span that it stands in. -/
def Stops (t : Theme) (c : Char) (w : Writer) (fs : List Fragment) : Prop :=
  Leaves t c w fs (close (upTo c fs))

theorem stops_nil : Stops t c (inOrder []) [] := by
  intro before
  change _ = (Sink.mk (some c) (before ++ ""), true)
  rw [String.append_empty]
  rfl

theorem stops_put (s : String) : Stops t c (put s) [.shown s] := by
  intro before
  rw [Spans.close_upTo_shown, textAll_cons, text, textAll_nil, String.append_empty, seen_shown,
    seen_nil, String.append_empty]
  rfl

/-- The sink takes the sequences around the text, the second one also when the text has failed. -/
theorem stops_span (quiet : t.Quiet c) (style : Style) (s : String) :
    Stops t c (t.writeSpan style s) [.set style, .shown s, .reset] := by
  intro before
  have opened := Sink.takes_some.mpr (quiet.escape style)
  have closed := Sink.takes_some.mpr quiet.reset
  rw [Spans.close_upTo_span, seen_set, seen_shown, seen_reset, seen_nil, String.append_empty]
  simp only [Theme.writeSpan, Sink.write, Sink.andThen, opened, closed, if_true, Bool.and_true,
    Sink.delivered_of_takes opened, Sink.delivered_of_takes closed, textAll_cons, textAll_nil, text,
    String.append_empty, String.append_assoc]

/-- The second writer is reached only if the first has left all of its fragments. -/
theorem Stops.andThen (first : Stops t c w fs) (second : Stops t c w' gs) (spans : Spans fs) :
    Stops t c (w.andThen w') (fs ++ gs) := by
  intro before
  rw [Writer.andThen, first before, Sink.andThen, seen_append, Sink.takes_append,
    spans.close_upTo_append t]
  cases taken : Sink.takes (some c) (seen t fs) with
  | true =>
    rw [if_pos rfl, if_pos rfl, upTo_of_takes taken, spans.close_eq, second, textAll_append,
      Bool.true_and, String.append_assoc]
  | false => rfl

end Writer

namespace Piece

open Writer

variable {t : Theme} {c : Char}

/-- Not put together before it is written. -/
def Direct (t : Theme) : Piece → Prop
  | .aligned _ _ => t.canBuffer = false
  | _ => True

theorem direct_of_unbuffered (unbuffered : t.canBuffer = false) (p : Piece) : p.Direct t := by
  cases p with
  | plain s => trivial
  | span style s => trivial
  | aligned a body => exact unbuffered

mutual

theorem stops_write (quiet : t.Quiet c) :
    (p : Piece) → p.Direct t → Stops t c (p.write t) (p.fragments t)
  | .plain s, _ => stops_put s
  | .span style s, _ => stops_span quiet style s
  | .aligned a body, unbuffered => by
    have straight : ¬t.canBuffer = true := Bool.eq_false_iff.mp unbuffered
    have width : gap t a body = a.width - (visibleAll body).length := if_neg straight
    have inside := stops_writeAll quiet body fun p _ => direct_of_unbuffered unbuffered p
    have beside : Stops t c (put (spaces (gap t a body))) [.shown (spaces (gap t a body))] :=
      stops_put _
    intro before
    rw [write, if_neg straight, fragments, ← width]
    cases a.side with
    | left => exact inside.andThen beside (spans_fragmentsAll t body) before
    | right => exact beside.andThen inside (.shown _ .nil) before

theorem stops_writeAll (quiet : t.Quiet c) :
    (ps : List Piece) → (∀ p ∈ ps, p.Direct t) → Stops t c (writeAll t ps) (fragmentsAll t ps)
  | [], _ => stops_nil
  | p :: ps, direct =>
    (stops_write quiet p (direct p List.mem_cons_self)).andThen
      (stops_writeAll quiet ps fun q mem => direct q (List.mem_cons_of_mem p mem))
      (p.spans_fragments t)

end

/-- A group that is put together first is written without regard to its spans. -/
theorem leaves_buffered (quiet : t.Quiet c) (buffers : t.canBuffer = true) (a : Alignment)
    (body : List Piece) :
    Leaves t c (writeAll t [aligned a body]) (fragmentsAll t [aligned a body])
      (upTo c (fragmentsAll t [aligned a body])) := by
  intro before
  have whole : writeAll t [aligned a body] ⟨some c, before⟩ =
      Sink.write ⟨some c, before⟩ (textAll t (fragmentsAll t [aligned a body])) := by
    rw [writeAll_singleton, textAll_fragmentsAll, styledAll, styledAll, String.append_empty, write,
      styled, if_pos buffers, if_pos buffers]
  rw [whole, Sink.write, textAll_upTo quiet, takes_textAll quiet]

theorem fragmentsAll_append (t : Theme) (ps qs : List Piece) :
    fragmentsAll t (ps ++ qs) = fragmentsAll t ps ++ fragmentsAll t qs := by
  rw [fragmentsAll_eq_flatMap, fragmentsAll_eq_flatMap, fragmentsAll_eq_flatMap,
    List.flatMap_append]

/-- Where one part of the output fails, the parts before it are on the sink as they are, and of it
what it leaves. -/
theorem writeAll_flatMap_of_failed {f : α → List Piece} {cut : α → List Fragment}
    (leaves : ∀ x, Leaves t c (writeAll t (f x)) (fragmentsAll t (f x)) (cut x))
    (whole : ∀ x, Sink.takes (some c) (seen t (fragmentsAll t (f x))) = true →
      cut x = fragmentsAll t (f x))
    {xs : List α} {before : String}
    (failed : (writeAll t (xs.flatMap f) ⟨some c, before⟩).2 = false) :
    ∃ done x rest, xs = done ++ x :: rest ∧
      Sink.takes (some c) (seen t (fragmentsAll t (done.flatMap f))) = true ∧
      Sink.takes (some c) (seen t (fragmentsAll t (f x))) = false ∧
      (writeAll t (xs.flatMap f) ⟨some c, before⟩).1.received =
        before ++ textAll t (fragmentsAll t (done.flatMap f) ++ cut x) := by
  induction xs generalizing before with
  | nil => contradiction
  | cons x xs ih =>
    have step : writeAll t ((x :: xs).flatMap f) ⟨some c, before⟩ =
        if Sink.takes (some c) (seen t (fragmentsAll t (f x))) then
          writeAll t (xs.flatMap f) ⟨some c, before ++ textAll t (cut x)⟩
        else (⟨some c, before ++ textAll t (cut x)⟩,
          Sink.takes (some c) (seen t (fragmentsAll t (f x)))) := by
      rw [List.flatMap_cons, writeAll_append, Writer.andThen, leaves x before]
      rfl
    rw [step] at failed ⊢
    by_cases taken : Sink.takes (some c) (seen t (fragmentsAll t (f x))) = true
    · rw [if_pos taken, whole x taken] at failed ⊢
      obtain ⟨done, y, rest, split, shown, stopped, received⟩ := ih failed
      refine ⟨x :: done, y, rest, ?_, ?_, stopped, ?_⟩
      · rw [split, List.cons_append]
      · rw [List.flatMap_cons, fragmentsAll_append, seen_append, Sink.takes_append, taken, shown,
          Bool.and_true]
      · rw [received, List.flatMap_cons, fragmentsAll_append, List.append_assoc,
          textAll_append t (fragmentsAll t (f x)), String.append_assoc]
    · rw [if_neg taken]
      exact ⟨[], x, xs, rfl, rfl, Bool.eq_false_iff.mpr taken, rfl⟩

end Piece

end StructuredLog

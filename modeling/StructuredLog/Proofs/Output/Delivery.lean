import StructuredLog.Output.Piece
import StructuredLog.Output.Writer
import StructuredLog.Proofs.Text.Run

/-!
Writing a text in parts. However a text is cut into writes, a writer that stops at the first failure
leaves a sink as one write of the whole text does: with all of the text, or with what stands before
the refused character.
-/

namespace StructuredLog

theorem Side.pad_zero (side : Side) (s : String) : side.pad 0 s = s := by
  cases side <;> simp [Side.pad, spaces]

namespace Sink

/-! ### What one write delivers -/

@[simp] theorem takes_some {c : Char} {s : String} :
    takes (some c) s = true ↔ c ∉ s.toList := by
  simp [takes]

@[simp] theorem takes_some_eq_false {c : Char} {s : String} :
    takes (some c) s = false ↔ c ∈ s.toList := by
  simp [takes]

theorem takes_append (refused : Option Char) (s t : String) :
    takes refused (s ++ t) = (takes refused s && takes refused t) := by
  cases refused with
  | none => rfl
  | some c => simp [takes]

theorem ne_of_takes {c : Char} {s : String} (taken : takes (some c) s = true) :
    ∀ d ∈ s.toList, (d != c) = true := by
  intro d mem
  rw [bne_iff_ne]
  rintro rfl
  exact takes_some.mp taken mem

theorem delivered_append_of_takes {refused : Option Char} {s : String}
    (taken : takes refused s = true) (t : String) :
    delivered refused (s ++ t) = s ++ delivered refused t := by
  cases refused with
  | none => rfl
  | some c =>
    rw [delivered, String.toList_append, List.takeWhile_append_of_pos (ne_of_takes taken),
      String.ofList_append, String.ofList_toList, delivered]

theorem delivered_of_takes {refused : Option Char} {s : String} (taken : takes refused s = true) :
    delivered refused s = s := by
  have whole := delivered_append_of_takes taken ""
  have empty : delivered refused "" = "" := by cases refused <;> rfl
  rwa [empty, String.append_empty] at whole

/-- Nothing that comes after a refused character is delivered. -/
theorem delivered_append_of_not_takes {refused : Option Char} {s : String}
    (failed : takes refused s = false) (t : String) :
    delivered refused (s ++ t) = delivered refused s := by
  cases refused with
  | none => contradiction
  | some c =>
    obtain ⟨before, after, split, fresh⟩ :=
      List.eq_append_cons_of_mem (takes_some_eq_false.mp failed)
    have pass : ∀ d ∈ before, (d != c) = true := by
      intro d inBefore
      rw [bne_iff_ne]
      rintro rfl
      exact fresh inBefore
    have stop (rest : List Char) : ∀ d ∈ (c :: rest).head?, (d != c) = false := by simp
    rw [delivered, delivered, String.toList_append, split, List.append_assoc, List.cons_append,
      Text.takeWhile_append_stop pass (stop _), Text.takeWhile_append_stop pass (stop _)]

/-- Two writes, the second only after all of the first was taken, are one write of both texts. -/
theorem write_append (k : Sink) (s t : String) :
    andThen (k.write s) (·.write t) = k.write (s ++ t) := by
  unfold andThen write
  cases taken : takes k.refused s with
  | true =>
    simp only [if_true, delivered_of_takes taken, delivered_append_of_takes taken, takes_append,
      taken, Bool.true_and, String.append_assoc]
  | false =>
    simp [delivered_append_of_not_takes taken, takes_append, taken]

theorem write_empty (k : Sink) : k.write "" = (k, true) := by
  obtain ⟨refused, received⟩ := k
  cases refused <;> simp [write, delivered, takes]

end Sink

/-! ### Writers -/

namespace Writer

theorem andThen_assoc (first second third : Writer) :
    (first.andThen second).andThen third = first.andThen (second.andThen third) := by
  funext k
  unfold andThen Sink.andThen
  cases taken : (first k).2 <;> simp [taken]

theorem andThen_nil (w : Writer) : w.andThen (inOrder []) = w := by
  funext k
  unfold andThen Sink.andThen
  split
  · next taken => exact Prod.ext rfl taken.symm
  · rfl

theorem beside_zero (side : Side) (w : Writer) : beside side 0 w = w := by
  cases side with
  | left => exact andThen_nil w
  | right => rfl

/-- The writer leaves every sink as one write of the text does. -/
def Delivers (w : Writer) (s : String) : Prop := ∀ k, w k = k.write s

theorem delivers_put (s : String) : Delivers (put s) s := fun _ => rfl

/-- Writers that deliver texts are the same just if the texts are. -/
theorem Delivers.eq_iff {w w' : Writer} {s s' : String} (left : Delivers w s)
    (right : Delivers w' s') : w = w' ↔ s = s' := by
  constructor
  · intro same
    have received : (w {}).1.received = (w' {}).1.received := by rw [same]
    rwa [left, right, Sink.write_none, Sink.write_none, String.empty_append,
      String.empty_append] at received
  · rintro rfl
    funext k
    rw [left, right]

theorem Delivers.andThen {w w' : Writer} {s s' : String} (first : Delivers w s)
    (second : Delivers w' s') : Delivers (w.andThen w') (s ++ s') := by
  intro k
  rw [← Sink.write_append, ← first k]
  unfold Writer.andThen Sink.andThen
  split
  · exact second _
  · rfl

theorem delivers_nil : Delivers (inOrder []) "" := fun k => k.write_empty.symm

theorem Delivers.cons {w : Writer} {ws : List Writer} {s t : String} (head : Delivers w s)
    (tail : Delivers (inOrder ws) t) : Delivers (inOrder (w :: ws)) (s ++ t) :=
  head.andThen tail

theorem delivers_inOrder {ws : List Writer} {ss : List String}
    (each : List.Forall₂ Delivers ws ss) : Delivers (inOrder ws) (String.join ss) := by
  induction each with
  | nil => exact delivers_nil
  | cons head tail ih =>
    rw [String.join_cons]
    exact head.cons ih

theorem delivers_separated {sep : Writer} {sepText : String} (between : Delivers sep sepText)
    {ws : List Writer} {ss : List String} (each : List.Forall₂ Delivers ws ss) :
    Delivers (separated sep ws) (sepText.intercalate ss) := by
  induction each with
  | nil => exact delivers_nil
  | cons head tail ih =>
    cases tail with
    | nil =>
      rw [String.intercalate_singleton]
      exact head
    | cons head' tail' =>
      rw [String.intercalate_cons_cons, String.append_assoc]
      exact head.andThen (between.andThen ih)

/-- A text put together first is all there before anything of it is written. -/
theorem Delivers.buffered {w : Writer} {next : String → Writer} {s t : String}
    (body : Delivers w s) (rest : Delivers (next s) t) : Delivers (buffered w next) t := by
  intro k
  have whole : w {} = (⟨none, s⟩, true) := by
    rw [body, Sink.write_none, String.empty_append]
  rw [Writer.buffered, whole]
  exact rest k

theorem spaces_add (m n : Nat) : StructuredLog.spaces (m + n) =
    StructuredLog.spaces m ++ StructuredLog.spaces n := by
  rw [StructuredLog.spaces, List.replicate_add, String.ofList_append]
  rfl

theorem join_spaces (runs : List Nat) :
    String.join (runs.map StructuredLog.spaces) = StructuredLog.spaces runs.sum := by
  induction runs with
  | nil => rfl
  | cons run runs ih => rw [List.map_cons, String.join_cons, ih, List.sum_cons, spaces_add]

theorem delivers_spaces (n : Nat) : Delivers (spaces n) (StructuredLog.spaces n) := by
  unfold spaces
  generalize eq : List.replicate (n / 40) 40 ++ (if n % 40 = 0 then [] else [n % 40]) = runs
  have total : runs.sum = n := by
    rw [← eq, List.sum_append, List.sum_replicate_nat]
    split <;> simp <;> omega
  have each : List.Forall₂ Delivers (runs.map fun run => put (StructuredLog.spaces run))
      (runs.map StructuredLog.spaces) := by
    rw [List.forall₂_map_left_iff, List.forall₂_map_right_iff, List.forall₂_same]
    exact fun run _ => delivers_put _
  have whole := delivers_inOrder each
  rwa [join_spaces, total] at whole

theorem Delivers.beside {w : Writer} {s : String} (body : Delivers w s) (side : Side) (n : Nat) :
    Delivers (beside side n w) (side.pad n s) := by
  cases side with
  | left => exact body.andThen (delivers_spaces n)
  | right => exact (delivers_spaces n).andThen body

theorem delivers_padded (a : Option Alignment) (s : String) :
    Delivers (padded a s) ((a.map (·.pad s)).getD s) := by
  cases a with
  | none => exact delivers_put s
  | some a =>
    change Delivers (padded (some a) s) (a.side.pad (a.width - s.length) s)
    unfold padded
    dsimp only
    split
    · next wide =>
      rw [Nat.sub_eq_zero_of_le wide, Side.pad_zero]
      exact delivers_put s
    · exact (delivers_put s).beside _ _

end Writer

/-! ### Pieces -/

namespace Piece

theorem writeAll_singleton (t : Theme) (p : Piece) : writeAll t [p] = p.write t :=
  Writer.andThen_nil (p.write t)

theorem writeAll_append (t : Theme) (ps qs : List Piece) :
    writeAll t (ps ++ qs) = Writer.andThen (writeAll t ps) (writeAll t qs) := by
  induction ps with
  | nil => rfl
  | cons p ps ih =>
    have first : writeAll t (p :: (ps ++ qs)) =
        Writer.andThen (p.write t) (writeAll t (ps ++ qs)) := rfl
    rw [List.cons_append, first, ih, ← Writer.andThen_assoc]
    rfl

/-! ### Pieces without a theme -/

theorem writeSpan_plain (style : Style) (s : String) (k : Sink) :
    Theme.plain.writeSpan style s k = k.write s := by
  simp only [Theme.writeSpan, Theme.escape_plain, Theme.reset_plain, Sink.write_empty,
    Sink.andThen, if_true, Bool.and_true]

open Writer

mutual

theorem delivers_piece : (p : Piece) → Delivers (p.write Theme.plain) (p.styled Theme.plain)
  | .plain s => delivers_put s
  | .span style s => by
    intro k
    rw [write, writeSpan_plain, styled, Theme.escape_plain, Theme.reset_plain,
      String.empty_append, String.append_empty]
  | .aligned a body => fun _ => rfl

theorem delivers_pieces : (ps : List Piece) →
    Delivers (writeAll Theme.plain ps) (styledAll Theme.plain ps)
  | [] => delivers_nil
  | p :: ps => (delivers_piece p).andThen (delivers_pieces ps)

end

end Piece

end StructuredLog

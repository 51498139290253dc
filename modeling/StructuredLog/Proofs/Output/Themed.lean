import StructuredLog.Output.Themed
import StructuredLog.Proofs.Output.Fragment
import StructuredLog.Proofs.Output.Unthemed

/-!
Themed values, written part by part. A writer does to every sink, failing or not, what writing the
pieces of the value does: how many writes the text of a span takes makes no difference. The count
that it adds up on the way is the number of characters that styling adds to the pieces.
-/

namespace StructuredLog

open Piece
open Writer (put Delivers delivers_put delivers_nil)

namespace Writer

/-- The writer leaves every sink as writing the pieces under the theme does. -/
def Writes (t : Theme) (w : Writer) (ps : List Piece) : Prop := ∀ k, w k = writeAll t ps k

namespace Writes

variable {t : Theme} {w w' : Writer} {ws : List Writer} {ps qs : List Piece}

theorem nil : Writes t (inOrder []) [] := fun _ => rfl

/-- Without a theme all that is written is what is seen. -/
theorem delivers (written : Writes Theme.plain w ps) : Delivers w (visibleAll ps) := by
  intro k
  rw [written, delivers_pieces, styledAll_plain]

theorem andThen (first : Writes t w ps) (second : Writes t w' qs) :
    Writes t (w.andThen w') (ps ++ qs) := by
  intro k
  rw [writeAll_append]
  unfold Writer.andThen
  rw [first k, funext second]

theorem cons (head : Writes t w ps) (tail : Writes t (inOrder ws) qs) :
    Writes t (inOrder (w :: ws)) (ps ++ qs) :=
  head.andThen tail

theorem flatMap {f : α → Writer} {g : α → List Piece} (each : ∀ x, Writes t (f x) (g x))
    (xs : List α) : Writes t (inOrder (xs.map f)) (xs.flatMap g) := by
  induction xs with
  | nil => exact nil
  | cons x xs ih => exact (each x).cons ih

theorem plain {s : String} (body : Delivers w s) : Writes t w [.plain s] := by
  intro k
  rw [writeAll_singleton, write]
  exact body k

end Writes

end Writer

namespace CountingWriter

theorem counted_andThen (m n : Nat) (w w' : Writer) :
    (counted m w).andThen (counted n w') = counted (m + n) (w.andThen w') := by
  funext k
  unfold andThen counted Writer.andThen Sink.andThen
  cases first : (w k).2 with
  | false => simp [first]
  | true => cases second : (w' (w k).1).2 <;> simp [first, second]

theorem uncounted_counted (n : Nat) (w : Writer) : (counted n w).uncounted = w := by
  funext k
  refine Prod.ext rfl ?_
  unfold uncounted counted
  cases taken : (w k).2 <;> simp [taken]

/-- The writer leaves every sink as writing the pieces under the theme does, and the count it gives
back is the number of characters that the theme adds to them. -/
def Writes (t : Theme) (w : CountingWriter) (ps : List Piece) : Prop :=
  w = counted (invisibleAll t ps) (writeAll t ps)

namespace Writes

variable {t : Theme} {w w' : CountingWriter} {ws : List CountingWriter} {ps qs : List Piece}

theorem uncounted (written : Writes t w ps) : Writer.Writes t w.uncounted ps := by
  intro k
  rw [written, uncounted_counted]

/-- A sink that takes everything has the pieces at its end. -/
theorem write_none (written : Writes t w ps) (before : String) :
    w ⟨none, before⟩ = (⟨none, before ++ styledAll t ps⟩, some (invisibleAll t ps)) := by
  rw [written, counted, writeAll_none]
  rfl

theorem fst_eq (written : Writes t w ps) (k : Sink) : (w k).1 = (writeAll t ps k).1 := by
  rw [written, counted]

/-- There is no count if not all was taken. -/
theorem snd_eq_none_iff (written : Writes t w ps) (k : Sink) :
    (w k).2 = none ↔ (writeAll t ps k).2 = false := by
  rw [written, counted]
  cases taken : (writeAll t ps k).2 <;> simp [taken]

/-- Without a theme nothing is counted, so that the texts alone tell two writers apart. -/
theorem plain_eq_iff (written : Writes Theme.plain w ps) (written' : Writes Theme.plain w' qs) :
    w = w' ↔ visibleAll ps = visibleAll qs := by
  rw [← written.uncounted.delivers.eq_iff written'.uncounted.delivers]
  constructor
  · exact congrArg CountingWriter.uncounted
  · intro same
    rw [written, written', uncounted_counted, uncounted_counted] at same
    rw [written, written', same, invisibleAll_plain, invisibleAll_plain]

theorem nil : Writes t (inOrder []) [] := rfl

theorem andThen (first : Writes t w ps) (second : Writes t w' qs) :
    Writes t (w.andThen w') (ps ++ qs) := by
  rw [Writes, first, second, counted_andThen, writeAll_append, invisibleAll_append]

theorem cons (head : Writes t w ps) (tail : Writes t (inOrder ws) qs) :
    Writes t (inOrder (w :: ws)) (ps ++ qs) :=
  head.andThen tail

theorem flatMap {f : α → CountingWriter} {g : α → List Piece} (each : ∀ x, Writes t (f x) (g x))
    (xs : List α) : Writes t (inOrder (xs.map f)) (xs.flatMap g) := by
  induction xs with
  | nil => exact nil
  | cons x xs ih => exact (each x).cons ih

theorem plain {body : Writer} {s : String} (delivered : Delivers body s) :
    Writes t (counted 0 body) [.plain s] := by
  have whole : body = writeAll t [.plain s] := funext (Writer.Writes.plain delivered)
  rw [Writes, whole]
  rfl

/-- What a span counts is what it writes beside its text. -/
theorem spanned {body : Writer} {s : String} (delivered : Delivers body s) (style : Style) :
    Writes t (t.spanned style body) [.span style s] := by
  have whole : body = put s := funext delivered
  have overhead : invisibleAll t [.span style s] = (t.escape style).length + t.reset.length := rfl
  rw [Writes, Theme.spanned, counted_andThen, whole, writeAll_singleton, overhead]
  rfl

theorem marked (s : String) : Writes t (t.marked s) [mark s] :=
  spanned (delivers_put s) .tertiaryText

theorem commaSeparated {groups : List (List Piece)} (each : List.Forall₂ (Writes t) ws groups) :
    Writes t (separated (t.marked ", ") ws) (commaSeparated groups) := by
  induction each with
  | nil => exact nil
  | cons head tail ih =>
    cases tail with
    | nil =>
      rw [StructuredLog.commaSeparated, List.intercalate_singleton]
      exact head
    | cons head' tail' =>
      rw [StructuredLog.commaSeparated, List.intercalate_cons_cons, List.append_assoc]
      exact head.andThen ((marked ", ").andThen ih)

theorem bracketed (opening closing : String) {groups : List (List Piece)}
    (each : List.Forall₂ (Writes t) ws groups) :
    Writes t (inOrder [t.marked opening, separated (t.marked ", ") ws, t.marked closing])
      (mark opening :: StructuredLog.commaSeparated groups ++ [mark closing]) := by
  have whole := (marked opening).cons ((commaSeparated each).cons ((marked closing).cons nil))
  rwa [List.append_nil, List.singleton_append] at whole

end Writes

end CountingWriter

open CountingWriter

/-! ### Values -/

section Values

variable (theme : Theme) (provider : Provider)

theorem Scalar.writes_display (format : Option String) (s : Scalar) :
    Writes theme (s.displayWriter theme provider format) [s.display provider format] := by
  have rendered := delivers_scalar s format provider
  cases s with
  | null => exact .spanned (delivers_put _) .null
  | string t => exact .spanned (delivers_if _ (delivers_put t) (delivers_quoted t)) .string
  | integer n => exact .spanned rendered .number
  | f32 bits => exact .spanned rendered .number
  | f64 bits => exact .spanned rendered .number
  | bool b => exact .spanned (delivers_put _) .boolean
  | char c =>
    have parts := (delivers_put "\x27").cons
      ((delivers_put (String.singleton c)).cons ((delivers_put "\x27").cons delivers_nil))
    have whole : String.ofList ['\x27', c, '\x27'] =
        "\x27" ++ (String.singleton c ++ ("\x27" ++ "")) := by
      simp
    rw [display, whole]
    exact .spanned parts .scalar
  | _ => exact .spanned rendered .scalar

mutual

theorem Value.writes_display : (format : Option String) → (v : Value) →
    Writes theme (v.displayWriter theme provider format) (v.display provider format)
  | format, .scalar s => s.writes_display theme provider format
  | format, .sequence items => .bracketed "[" "]" (writes_itemDisplays format items)
  | format, .record tag members => by
    have tagged : Writes theme
        ((tag.map fun t => inOrder [theme.spanned .name (put t), counted 0 (put " ")]).getD
          (inOrder []))
        ((tag.map fun t => [.span .name t, .plain " "]).getD []) := by
      cases tag with
      | none => exact .nil
      | some t =>
        exact .cons (.spanned (delivers_put t) .name) (.cons (.plain (delivers_put " ")) .nil)
    rw [Value.display, List.append_assoc]
    exact tagged.cons (.bracketed "\x7b" "\x7d" (writes_memberDisplays members))
  | format, .dictionary entries => .bracketed "\x7b" "\x7d" (writes_entryDisplays entries)

theorem writes_itemDisplays (format : Option String) : (vs : List Value) →
    List.Forall₂ (Writes theme) (itemDisplayWriters theme provider format vs)
      (itemDisplays provider format vs)
  | [] => .nil
  | v :: vs => .cons (v.writes_display format) (writes_itemDisplays format vs)

theorem writes_memberDisplays : (ms : List (String × Value)) →
    List.Forall₂ (Writes theme) (memberDisplayWriters theme provider ms)
      (memberDisplays provider ms)
  | [] => .nil
  | (name, v) :: ms => by
    have whole := Writes.cons (.spanned (t := theme) (delivers_put name) .name)
      (.cons (.marked "=") (.cons (v.writes_display none) .nil))
    rw [List.append_nil] at whole
    exact .cons whole (writes_memberDisplays ms)

theorem writes_entryDisplays : (es : List (Scalar × Value)) →
    List.Forall₂ (Writes theme) (entryDisplayWriters theme provider es)
      (entryDisplays provider es)
  | [] => .nil
  | (key, v) :: es => by
    have whole := Writes.cons (.marked (t := theme) "[")
      (.cons (key.writes_display theme provider none)
        (.cons (.marked "]=") (.cons (v.writes_display none) .nil)))
    rw [List.append_nil] at whole
    exact .cons whole (writes_entryDisplays es)

end

end Values

/-! ### JSON -/

section Json

variable (theme : Theme)

theorem Scalar.writes_json (s : Scalar) :
    Writes theme (s.themedJsonWriter theme) [.span s.jsonStyle s.json] :=
  .spanned (delivers_scalarJson s) s.jsonStyle

theorem writes_jsonName (style : Style) (name : String) {w : CountingWriter} {item : List Piece}
    (written : Writes theme w item) :
    Writes theme (theme.jsonName style name w) (jsonName style name item) := by
  have whole := Writes.cons (.spanned (delivers_quoted name) style)
    (.cons (.marked ": ") (.cons written .nil))
  rwa [List.append_nil] at whole

mutual

theorem Value.writes_json : (v : Value) → Writes theme (v.themedJsonWriter theme) v.jsonPieces
  | .scalar s => s.writes_json theme
  | .sequence items => .bracketed "[" "]" (writes_itemJsons items)
  | .record tag members => by
    have tagged : List.Forall₂ (Writes theme)
        (tag.map fun t => theme.jsonName .name Json.messageTagName
          (theme.spanned .string (Json.quotedWriter t))).toList
        (tag.map fun t => jsonName .name Json.messageTagName
          [.span .string (Json.quoted t)]).toList := by
      cases tag with
      | none => exact .nil
      | some t =>
        exact .cons (writes_jsonName theme _ _ (.spanned (delivers_quoted t) .string)) .nil
    exact .bracketed "\x7b" "\x7d" (List.rel_append (writes_memberJsons members) tagged)
  | .dictionary entries => .bracketed "\x7b" "\x7d" (writes_entryJsons entries)

theorem writes_itemJsons : (vs : List Value) →
    List.Forall₂ (Writes theme) (itemThemedJsonWriters theme vs) (itemJsonPieces vs)
  | [] => .nil
  | v :: vs => .cons v.writes_json (writes_itemJsons vs)

theorem writes_memberJsons : (ms : List (String × Value)) →
    List.Forall₂ (Writes theme) (memberThemedJsonWriters theme ms) (memberJsonPieces ms)
  | [] => .nil
  | (name, v) :: ms =>
    .cons (writes_jsonName theme .name name v.writes_json) (writes_memberJsons ms)

theorem writes_entryJsons : (es : List (Scalar × Value)) →
    List.Forall₂ (Writes theme) (entryThemedJsonWriters theme es) (entryJsonPieces es)
  | [] => .nil
  | (key, v) :: es =>
    .cons (writes_jsonName theme key.keyStyle key.text v.writes_json) (writes_entryJsons es)

end

end Json

theorem Value.writes_pieces (form : ValueForm) (theme : Theme) (provider : Provider)
    (format : Option String) (literal : Bool) (v : Value) :
    Writes theme (v.themedWriter form theme provider format literal)
      (v.pieces form provider format literal) := by
  cases form with
  | display => exact v.writes_display theme provider format
  | json =>
    cases v with
    | scalar s =>
      cases literal with
      | true => exact s.writes_display theme provider format
      | false => exact s.writes_json theme
    | _ => exact Value.writes_json theme _

end StructuredLog

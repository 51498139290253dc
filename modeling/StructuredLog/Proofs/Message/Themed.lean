import StructuredLog.Message.Themed
import StructuredLog.Proofs.Output.Fragment
import StructuredLog.Proofs.Output.Themed

/-!
Themed messages, written part by part. Aligned values are written as aligned groups are, whether
they are put together first or not, and their padding is never counted.
-/

namespace StructuredLog

open CountingWriter Piece
open Writer (Delivers put delivers_put delivers_padded delivers_spaces)

/-! ### Aligned groups -/

section Groups

variable {t : Theme} {w : CountingWriter} {ps : List Piece}

/-- A text is left as it is if what is visible of it has the width. -/
theorem Piece.pad_widen_of_wide {a : Alignment}
    (wide : a.width ≤ (styledAll t ps).length - invisibleAll t ps) :
    (a.widen (invisibleAll t ps)).pad (styledAll t ps) = styledAll t ps := by
  have shorter := invisibleAll_le_length t ps
  have least : (a.widen (invisibleAll t ps)).width ≤ a.width + invisibleAll t ps :=
    Nat.min_le_left _ _
  have none : (a.widen (invisibleAll t ps)).width - (styledAll t ps).length = 0 := by omega
  rw [Alignment.pad, none, Side.pad_zero]

theorem CountingWriter.beside_counted (side : Side) (n m : Nat) (w : Writer) :
    beside side n (counted m w) = counted m (Writer.beside side n w) := by
  cases side with
  | left => exact counted_andThen m 0 w _
  | right =>
    have whole := counted_andThen 0 m (Writer.spaces n) w
    rwa [Nat.zero_add] at whole

/-- A buffer takes everything, so the text and the count are those of the pieces. -/
theorem CountingWriter.Writes.buffered_eq (body : Writes t w ps)
    (next : String → Nat → CountingWriter) :
    buffered w next = next (styledAll t ps) (invisibleAll t ps) := by
  have whole := body.write_none ""
  rw [String.empty_append] at whole
  funext k
  unfold buffered
  rw [whole]

/-- Writing without a theme first measures what will be seen. -/
theorem CountingWriter.Writes.measured (body : Writes Theme.plain w ps)
    (next : String → CountingWriter) :
    (buffered w fun s _ => next s) = next (visibleAll ps) := by
  rw [body.buffered_eq, styledAll_plain]

/-- The text is all there before anything of it is written. -/
theorem CountingWriter.Writes.buffered (body : Writes t w ps) {a : Alignment}
    (buffers : t.canBuffer = true) {next : String → Nat → Writer}
    (rest : Delivers (next (styledAll t ps) (invisibleAll t ps))
      ((a.widen (invisibleAll t ps)).pad (styledAll t ps))) :
    Writes t (buffered w fun s invisible => counted invisible (next s invisible))
      [.aligned a ps] := by
  have group : invisibleAll t [.aligned a ps] = invisibleAll t ps := rfl
  rw [Writes, body.buffered_eq, group, writeAll_singleton]
  congr 1
  funext k
  rw [write, if_pos buffers]
  exact rest k

theorem CountingWriter.Writes.beside (body : Writes t w ps) (a : Alignment)
    (unbuffered : ¬t.canBuffer = true) :
    Writes t (beside a.side (a.width - (visibleAll ps).length) w) [.aligned a ps] := by
  have gap (n : Nat) : Writer.spaces n = put (spaces n) := funext (delivers_spaces n)
  have group : writeAll t [.aligned a ps] = Writer.beside a.side
      (a.width - (visibleAll ps).length) (writeAll t ps) := by
    funext k
    rw [writeAll_singleton, write, if_neg unbuffered]
    unfold Writer.beside
    rw [gap]
    cases a.side <;> rfl
  rw [Writes, group, body, beside_counted]
  rfl

end Groups

/-! ### Messages -/

section Messages

variable (flags : MessageFlags) (theme : Theme) (provider : Provider)

theorem Value.writes_inMessage (format : Option String) (v : Value) :
    Writes theme (v.themedInMessage flags theme provider format)
      (v.messagePieces flags provider format) := by
  have formatted := v.writes_pieces flags.form theme provider format flags.literal
  unfold themedInMessage messagePieces
  cases literal : flags.literal with
  | false =>
    rw [literal] at formatted
    exact formatted
  | true =>
    rw [literal] at formatted
    cases v with
    | scalar s =>
      cases s with
      | string s => exact .spanned (delivers_put s) .string
      | _ => exact formatted
    | _ => exact formatted

theorem Value.writes_alignedInMessage (format : Option String) (a : Alignment) (v : Value) :
    Writes theme (v.alignedInMessage flags theme provider format a)
      [.aligned a (v.messagePieces flags provider format)] := by
  have body (theme : Theme) := v.writes_inMessage flags theme provider format
  unfold alignedInMessage
  dsimp only
  split
  · next buffers =>
    apply (body theme).buffered buffers
    split
    · next wide =>
      rw [pad_widen_of_wide wide]
      exact delivers_put _
    · exact delivers_padded (some _) _
  · next unbuffered =>
    have beside := (body theme).beside a unbuffered
    rw [(body Theme.plain).measured fun s => _]
    split
    · next wide =>
      rw [Nat.sub_eq_zero_of_le wide, body theme, beside_counted, Writer.beside_zero] at beside
      rwa [body theme]
    · exact beside

theorem Token.writes_messagePieces (props : PropertyMap) (token : Token) :
    Writes theme (token.themedWriter flags theme provider props)
      (token.messagePieces flags provider props) := by
  cases token with
  | text s => exact .spanned (delivers_put s) .text
  | placeholder p =>
    unfold themedWriter messagePieces
    dsimp only
    cases props.get? p.name with
    | none => exact .spanned (delivers_put p.source) .invalid
    | some v =>
      cases p.alignment with
      | none => exact v.writes_inMessage flags theme provider p.format
      | some a => exact v.writes_alignedInMessage flags theme provider p.format a

theorem Template.writes_messagePieces (props : PropertyMap) (template : Template) :
    Writes theme (template.themedWriter flags theme provider props)
      (template.messagePieces flags provider props) :=
  .flatMap (fun token => token.writes_messagePieces flags theme provider props) template.tokens

end Messages

end StructuredLog

import StructuredLog.Line.Writer
import StructuredLog.Proofs.Message.Themed

/-!
Output lines, written part by part.
-/

namespace StructuredLog

open Piece Writer

namespace Line

/-- The group is seen as wide whether it is put together or written without a theme to be
measured. -/
theorem writes_group (t : Theme) (a : Alignment) {body : Theme → CountingWriter} {ps : List Piece}
    (written : ∀ t, CountingWriter.Writes t (body t) ps) :
    CountingWriter.Writes t (groupWriter t a body) [.aligned a ps] := by
  unfold groupWriter
  split
  · next buffers => exact (written t).buffered buffers (delivers_padded (some _) _)
  · next unbuffered =>
    rw [(written Theme.plain).measured fun s => .beside a.side (a.width - s.length) (body t)]
    exact (written t).beside a unbuffered

theorem writes_spanned (t : Theme) {w : Writer} {s : String} (body : Delivers w s)
    (style : Style) : Writes t (t.spanned style w).uncounted [.span style s] :=
  (CountingWriter.Writes.spanned body style).uncounted

theorem delivers_aligned (a : Option Alignment) {s : String} (body : Delivers w s) :
    Delivers (alignedWriter a w) (padded a s) := by
  cases a with
  | none => exact body
  | some a => exact body.buffered (delivers_padded (some a) s)

theorem delivers_timestamp (e : Event) (provider : Provider) (format : Option String) :
    Delivers (timestampWriter e provider format) (timestampText e provider format) := by
  unfold timestampWriter timestampText
  dsimp only
  cases provider format (.zoned e.timestamp) with
  | none => exact delivers_formatted _ _
  | some s => exact delivers_put s

theorem delivers_property (provider : Provider) (format : Option String) (v : Value) :
    Delivers (propertyWriter provider format v) (propertyText provider format v) := by
  have formatted := delivers_value provider format v
  cases v with
  | scalar s =>
    cases s with
    | string s => exact delivers_put _
    | _ => exact formatted
  | _ => exact formatted

theorem writes_exception (t : Theme) (x : Exception) :
    Writes t (exceptionWriter t x) (exceptionPieces x) :=
  .flatMap (fun l =>
    .cons (writes_spanned t (delivers_put l) _) (.cons (.plain (delivers_put "\n")) .nil)) _

theorem writes_placeholder (line : Template) (e : Event) (provider : Provider) (theme : Theme)
    (p : Placeholder) : Writes theme (placeholderWriter line e provider theme p)
      (placeholderPieces line e provider theme.canBuffer p) := by
  unfold placeholderWriter placeholderPieces
  cases LinePart.ofName p.name with
  | level => exact writes_spanned theme (delivers_padded _ _) _
  | newLine => exact .plain (delivers_padded _ _)
  | exception =>
    dsimp only
    cases e.exception with
    | none => exact .nil
    | some x => exact writes_exception theme x
  | message =>
    have body (theme : Theme) :=
      e.template.writes_messagePieces (.ofFormat p.format) theme provider e.properties
    dsimp only
    cases p.alignment with
    | none => exact (body theme).uncounted
    | some a => exact (writes_group theme a body).uncounted
  | timestamp => exact writes_spanned theme (delivers_aligned _ (delivers_timestamp e provider _)) _
  | properties =>
    have body (theme : Theme) := (Value.record none (remaining line e)).writes_pieces
      (MessageFlags.ofFormat p.format).form theme provider none false
    dsimp only
    cases p.alignment with
    | none =>
      rw [align, ite_self]
      exact (body theme).uncounted
    | some a =>
      dsimp only
      split
      · exact (writes_group theme a body).uncounted
      · exact (body theme).uncounted
  | property name =>
    dsimp only
    cases e.properties.get? name with
    | none => exact .plain (delivers_padded _ _)
    | some v => exact writes_spanned theme (delivers_aligned _ (delivers_property provider _ v)) _

theorem writes_token (line : Template) (e : Event) (provider : Provider) (theme : Theme)
    (token : Token) : Writes theme (tokenWriter line e provider theme token)
      (tokenPieces line e provider theme.canBuffer token) := by
  cases token with
  | text s => exact writes_spanned theme (delivers_put s) .tertiaryText
  | placeholder p => exact writes_placeholder line e provider theme p

end Line

theorem Template.writes_linePieces (line : Template) (e : Event) (provider : Provider)
    (theme : Theme) :
    Writes theme (line.lineWriter e provider theme)
      (line.linePieces e provider theme.canBuffer) :=
  .flatMap (Line.writes_token line e provider theme) line.tokens

end StructuredLog

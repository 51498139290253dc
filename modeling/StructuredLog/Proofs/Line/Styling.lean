import StructuredLog.Proofs.Line.Themed

/-!
Styling and alignment of whole lines. A theme that can buffer adds its sequences to a line and
nothing else, wherever the padding of a part stands: inside its span, beside it, or around a text
that was put together first. A theme that cannot buffer writes the same line, but for the remaining
properties, which it leaves unaligned.
-/

namespace StructuredLog

open Piece

/-- The alignment that counts for a part of a line. A newline takes up no column, so its padding
makes up for it; exceptions are never aligned. -/
def LinePart.alignment (a : Alignment) : LinePart → Option Alignment
  | .newLine => some (a.widen 1)
  | .exception => none
  | _ => some a

namespace Line

section Placeholders

variable {line : Template} {e : Event} {provider : Provider} {theme : Theme}

/-- The placeholder without its alignment. -/
def unaligned (p : Placeholder) : Placeholder := { p with alignment := none }

/-- An aligned part is what it is without alignment, with spaces beside it. -/
theorem visible_placeholderPieces {p : Placeholder} {a : Alignment}
    (alignment : p.alignment = some a) :
    visibleAll (placeholderPieces line e provider true p) =
      padded ((LinePart.ofName p.name).alignment a)
        (visibleAll (placeholderPieces line e provider true (unaligned p))) := by
  unfold placeholderPieces unaligned
  cases LinePart.ofName p.name with
  | property name =>
    cases found : e.properties.get? name <;>
      simp [found, alignment, LinePart.alignment, padded, visibleAll, visible]
  | _ => simp [alignment, LinePart.alignment, padded, align, visibleAll, visible]

/-- Nothing but its own alignment makes a part of a line need more room. -/
theorem fitsAll_unaligned {p : Placeholder}
    (fits : FitsAll theme (placeholderPieces line e provider true p)) :
    FitsAll theme (placeholderPieces line e provider true (unaligned p)) := by
  cases alignment : p.alignment with
  | none =>
    have same : unaligned p = p := by rw [unaligned, ← alignment]
    rwa [same]
  | some a =>
    unfold placeholderPieces unaligned at *
    cases part : LinePart.ofName p.name with
    | message =>
      simp only [part, alignment, align] at fits ⊢
      exact fits.1.2
    | properties =>
      simp only [part, alignment, align, if_true] at fits ⊢
      exact fits.1.2
    | property name =>
      cases found : e.properties.get? name <;> simp only [found] <;> exact ⟨trivial, trivial⟩
    | exception =>
      simpa only [part] using fits
    | _ => exact ⟨trivial, trivial⟩

theorem seen_placeholderPieces {p : Placeholder} {a : Alignment} (alignment : p.alignment = some a)
    (fits : FitsAll theme (placeholderPieces line e provider true p)) :
    Fragment.seen theme (fragmentsAll theme (placeholderPieces line e provider true p)) =
      padded ((LinePart.ofName p.name).alignment a) (Fragment.seen theme
        (fragmentsAll theme (placeholderPieces line e provider true (unaligned p)))) := by
  rw [seen_fragmentsAll theme _ fits, seen_fragmentsAll theme _ (fitsAll_unaligned fits)]
  exact visible_placeholderPieces alignment

theorem fitsAll_tokenPieces {canBuffer : Bool}
    (fits : FitsAll theme (line.linePieces e provider canBuffer)) {token : Token}
    (mem : token ∈ line.tokens) : FitsAll theme (tokenPieces line e provider canBuffer token) := by
  rw [fitsAll_iff] at fits ⊢
  intro piece inToken
  exact fits piece (List.mem_flatMap.mpr ⟨token, mem, inToken⟩)

end Placeholders

end Line

open Line

/-- A theme that can buffer adds its sets and resets to a line and nothing else. Deleted, they leave
the line without a theme, in which every part has its own padding. The line may be any text of fewer
characters than a machine can count. -/
theorem Template.line_styling_keeps_text (line : Template) (e : Event) (provider : Provider)
    (theme : Theme) (before : String) (buffers : theme.canBuffer = true)
    (countable : (styledAll theme (line.linePieces e provider true)).length < Alignment.maxWidth) :
    let write (t : Theme) := line.lineWriter e provider t ⟨none, before⟩
    let fragments := fragmentsAll theme (line.linePieces e provider true)
    write theme = (⟨none, before ++ Fragment.textAll theme fragments⟩, true) ∧
    write Theme.plain = (⟨none, before ++ Fragment.seen theme fragments⟩, true) ∧
    fragments = line.tokens.flatMap (fun token =>
      fragmentsAll theme (tokenPieces line e provider true token)) ∧
    ∀ p a, .placeholder p ∈ line.tokens → p.alignment = some a →
      let seenOf (p : Placeholder) := Fragment.seen theme
        (fragmentsAll theme (placeholderPieces line e provider true p))
      seenOf p = padded ((LinePart.ofName p.name).alignment a) (seenOf (unaligned p)) := by
  intro write fragments
  have fits : FitsAll theme (line.linePieces e provider true) :=
    fitsAll_of_length_lt theme buffers _ countable
  have themed := line.writes_linePieces e provider theme ⟨none, before⟩
  have unthemed := line.writes_linePieces e provider Theme.plain ⟨none, before⟩
  refine ⟨?_, ?_, ?_, ?_⟩
  · rw [textAll_fragmentsAll]
    rwa [buffers, writeAll_none] at themed
  · rw [seen_fragmentsAll theme _ fits, ← styledAll_plain]
    rwa [writeAll_none] at unthemed
  · simp only [fragments, linePieces, fragmentsAll_eq_flatMap, List.flatMap_assoc]
  · intro p a mem alignment
    exact seen_placeholderPieces alignment (fitsAll_tokenPieces fits mem)

theorem Template.padded_ansi_line :
    let theme := Theme.ansi [(.levelWarning, "\x1b[33m"), (.text, "\x1b[37m")]
    let line := Template.parse
      "\x7bLevel,-8\x7d|\x7bMessage,6\x7d|\x7bProperties,-10\x7d|\x7bHost,4\x7d"
    let event : Event :=
      ⟨⟨⟨⟨2024, 3, 9, by decide⟩, ⟨14, 5, 7, 0, by decide⟩⟩, .utc⟩, .warning, none,
      Template.parse "disk",
        .ofList [("A", .scalar (.bool true)), ("Host", .scalar (.string "h"))]⟩
    let write (t : Theme) := line.lineWriter event .none t ⟨none, ""⟩
    (theme.canBuffer = true ∧
      (styledAll theme (line.linePieces event .none true)).length < Alignment.maxWidth) ∧
    write theme =
      (⟨none, "\x1b[33mWarning \x1b[0m|\x1b[0m  \x1b[37mdisk\x1b[0m|\x1b[0m" ++
        "\x7b\x1b[0mA\x1b[0m=\x1b[0mtrue\x1b[0m\x7d\x1b[0m  |\x1b[0m   h\x1b[0m"⟩, true) ∧
    write Theme.plain = (⟨none, "Warning |  disk|\x7bA=true\x7d  |   h"⟩, true) := by
  intro theme line event write
  have buffers : theme.canBuffer = true := rfl
  have countable :
      (styledAll theme (line.linePieces event .none true)).length < Alignment.maxWidth := by
    decide +kernel
  obtain ⟨themed, unthemed, -⟩ :=
    line.line_styling_keeps_text event .none theme "" buffers countable
  exact ⟨⟨buffers, countable⟩, themed.trans (by decide +kernel), unthemed.trans (by decide +kernel)⟩

/-! ### Themes that cannot buffer -/

/-- The token without its alignment if it stands for the remaining properties. -/
def Token.flushProperties : Token → Token
  | .text s => .text s
  | .placeholder p =>
    .placeholder (if LinePart.ofName p.name = .properties then unaligned p else p)

/-- The template with the remaining properties unaligned. -/
def Template.flushProperties (line : Template) : Template :=
  { line with tokens := line.tokens.map Token.flushProperties }

/-- The token gives no alignment to the remaining properties. -/
def Token.IsFlush : Token → Prop
  | .text _ => True
  | .placeholder p => LinePart.ofName p.name = .properties → p.alignment = none

instance : (token : Token) → Decidable token.IsFlush
  | .text _ => inferInstanceAs (Decidable True)
  | .placeholder p =>
    inferInstanceAs (Decidable (LinePart.ofName p.name = .properties → p.alignment = none))

section Unbuffered

variable (line : Template) (e : Event) (provider : Provider)

theorem Template.mentions_flushProperties (name : String) :
    line.flushProperties.mentions name = line.mentions name := by
  simp only [mentions, placeholders, flushProperties, List.any_filterMap, List.any_map]
  congr 1
  funext token
  cases token with
  | text s => rfl
  | placeholder p =>
    simp only [Function.comp_apply, Token.flushProperties, Token.placeholder?]
    split <;> rfl

theorem Line.remaining_flushProperties :
    remaining line.flushProperties e = remaining line e := by
  simp only [remaining, Template.mentions_flushProperties]

/-- Of all parts, only the remaining properties are put together in another way. -/
theorem Line.tokenPieces_unbuffered (token : Token) :
    tokenPieces line e provider false token =
      tokenPieces line.flushProperties e provider true token.flushProperties := by
  cases token with
  | text s => rfl
  | placeholder p =>
    simp only [tokenPieces, Token.flushProperties]
    unfold placeholderPieces
    cases part : LinePart.ofName p.name <;>
      simp [part, unaligned, align, remaining_flushProperties]

theorem Template.linePieces_unbuffered :
    line.linePieces e provider false = line.flushProperties.linePieces e provider true := by
  simp only [linePieces, List.flatMap_map, flushProperties]
  exact List.flatMap_congr fun token _ => tokenPieces_unbuffered line e provider token

theorem Token.flushProperties_eq {token : Token} (flush : token.IsFlush) :
    token.flushProperties = token := by
  cases token with
  | text s => rfl
  | placeholder p =>
    rw [flushProperties]
    split
    · next part => rw [unaligned, ← flush part]
    · rfl

theorem Template.flushProperties_eq {line : Template}
    (flush : ∀ token ∈ line.tokens, token.IsFlush) : line.flushProperties = line := by
  have same : line.tokens.map Token.flushProperties = line.tokens.map id :=
    List.map_congr_left fun token mem => Token.flushProperties_eq (flush token mem)
  rw [flushProperties, same, List.map_id]

/-- A theme that cannot buffer writes a line as one that can, with the remaining properties
unaligned; so it writes the same line wherever they have no alignment. -/
theorem Template.unbuffered_line (theme : Theme) (before : String)
    (buffers : theme.canBuffer = true)
    (countable : (styledAll theme (line.flushProperties.linePieces e provider true)).length <
      Alignment.maxWidth) :
    let written (t : Theme) (line : Template) := line.lineWriter e provider t ⟨none, before⟩
    written theme.unbuffered line = written theme line.flushProperties ∧
      ((∀ token ∈ line.tokens, token.IsFlush) →
        written theme.unbuffered line = written theme line) := by
  intro written
  have flushed : written theme.unbuffered line = written theme line.flushProperties := by
    have fits := fitsAll_of_length_lt theme buffers _ countable
    have unbuffered : theme.unbuffered.canBuffer = false := rfl
    simp only [written]
    rw [writes_linePieces, writes_linePieces, buffers, unbuffered, writeAll_none, writeAll_none,
      linePieces_unbuffered, styledAll_unbuffered theme fits]
  refine ⟨flushed, fun flush => ?_⟩
  rw [flushed, flushProperties_eq flush]

end Unbuffered

theorem Template.unbuffered_ansi_line :
    let theme := Theme.ansi [(.text, "\x1b[37m")]
    let line := Template.parse "\x7bMessage,-6\x7d|\x7bProperties,10\x7d"
    let event : Event :=
      ⟨⟨⟨⟨2024, 3, 9, by decide⟩, ⟨14, 5, 7, 0, by decide⟩⟩, .utc⟩, .debug, none,
      Template.parse "disk",
        .ofList [("A", .scalar (.bool true))]⟩
    (theme.canBuffer = true ∧
      (styledAll theme (line.flushProperties.linePieces event .none true)).length <
        Alignment.maxWidth) ∧
    line.lineWriter event .none theme.unbuffered ⟨none, ""⟩ =
      (⟨none, "\x1b[37mdisk\x1b[0m  |\x1b[0m\x7b\x1b[0mA\x1b[0m=\x1b[0mtrue\x1b[0m\x7d\x1b[0m"⟩,
        true) := by
  intro theme line event
  have buffers : theme.canBuffer = true := rfl
  have countable : (styledAll theme (line.flushProperties.linePieces event .none true)).length <
      Alignment.maxWidth := by
    decide +kernel
  have flushed := (line.unbuffered_line event .none theme "" buffers countable).1
  exact ⟨⟨buffers, countable⟩, flushed.trans (by decide +kernel)⟩

/-- Aligned properties are padded by a theme that can buffer, and not by one that cannot. -/
theorem Template.aligned_properties_unbuffered :
    let theme := Theme.ansi []
    let line := Template.parse "\x7bProperties,10\x7d"
    let event : Event :=
      ⟨⟨⟨⟨2024, 3, 9, by decide⟩, ⟨14, 5, 7, 0, by decide⟩⟩, .utc⟩, .debug, none,
      Template.parse "disk",
        .ofList [("A", .scalar (.bool true))]⟩
    let written (t : Theme) := (line.lineWriter event .none t ⟨none, ""⟩).1.received
    written theme =
        "  \x7b\x1b[0mA\x1b[0m=\x1b[0mtrue\x1b[0m\x7d\x1b[0m" ∧
      written theme.unbuffered =
        "\x7b\x1b[0mA\x1b[0m=\x1b[0mtrue\x1b[0m\x7d\x1b[0m" ∧
      written theme.unbuffered ≠ written theme := by
  decide +kernel

end StructuredLog

import StructuredLog.Line.Basic
import StructuredLog.Message.Themed

/-!
Writing an output line, token by token. A line has no use for the counts of its parts, except to
align them.
-/

namespace StructuredLog

namespace Line

open Writer

def exceptionWriter (theme : Theme) (x : Exception) : Writer :=
  inOrder ((splitLines x.fullText).map fun l =>
    let style : Style := if l.toList.take 3 = [' ', ' ', ' '] then .secondaryText else .text
    inOrder [(theme.spanned style (put l)).uncounted, put "\n"])

/-- An aligned group. A theme that can buffer has it put together first; for any other it is written
without a theme to be measured. -/
def groupWriter (theme : Theme) (a : Alignment) (body : Theme → CountingWriter) : CountingWriter :=
  if theme.canBuffer then
    CountingWriter.buffered (body theme) fun s invisible =>
      .counted invisible (Writer.padded (some (a.widen invisible)) s)
  else
    CountingWriter.buffered (body Theme.plain) fun s _ =>
      .beside a.side (a.width - s.length) (body theme)

/-- A text that is put together only if it is to be aligned. -/
def alignedWriter (a : Option Alignment) (body : Writer) : Writer :=
  match a with
  | none => body
  | some a => buffered body (Writer.padded (some a))

def timestampWriter (e : Event) (provider : Provider) (format : Option String) : Writer :=
  let t := Scalar.zoned e.timestamp
  match provider format t with
  | some s => put s
  | none => t.formattedWriter (some (format.getD defaultTimestampFormat))

def propertyWriter (provider : Provider) (format : Option String) : Value → Writer
  | .scalar (.string s) => put (applyCase format s)
  | v => v.writer provider format

def placeholderWriter (line : Template) (e : Event) (provider : Provider) (theme : Theme)
    (p : Placeholder) : Writer :=
  match LinePart.ofName p.name with
  | .level =>
    let moniker := Writer.padded p.alignment (e.level.moniker p.format)
    (theme.spanned e.level.style moniker).uncounted
  | .newLine => Writer.padded (p.alignment.map (·.widen 1)) "\n"
  | .exception => (e.exception.map (exceptionWriter theme)).getD (inOrder [])
  | .message =>
    let flags := MessageFlags.ofFormat p.format
    let body (theme : Theme) := e.template.themedWriter flags theme provider e.properties
    match p.alignment with
    | none => (body theme).uncounted
    | some a => (groupWriter theme a body).uncounted
  | .timestamp =>
    let timestamp := alignedWriter p.alignment (timestampWriter e provider p.format)
    (theme.spanned .secondaryText timestamp).uncounted
  | .properties =>
    let form := (MessageFlags.ofFormat p.format).form
    let rest := Value.record none (remaining line e)
    let body (theme : Theme) := rest.themedWriter form theme provider none false
    match p.alignment with
    | none => (body theme).uncounted
    | some a =>
      if theme.canBuffer then (groupWriter theme a body).uncounted else (body theme).uncounted
  | .property name =>
    match e.properties.get? name with
    | none => Writer.padded p.alignment ""
    | some v =>
      let text := alignedWriter p.alignment (propertyWriter provider p.format v)
      (theme.spanned .secondaryText text).uncounted

def tokenWriter (line : Template) (e : Event) (provider : Provider) (theme : Theme) :
    Token → Writer
  | .text s => (theme.spanned .tertiaryText (put s)).uncounted
  | .placeholder p => placeholderWriter line e provider theme p

end Line

/-- Writes the line of an event under an output template. -/
def Template.lineWriter (line : Template) (e : Event) (provider : Provider) (theme : Theme) :
    Writer :=
  Writer.inOrder (line.tokens.map (Line.tokenWriter line e provider theme))

end StructuredLog

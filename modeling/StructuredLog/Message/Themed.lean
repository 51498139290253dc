import StructuredLog.Message.Pieces
import StructuredLog.Output.Themed

/-!
Writing a message for a themed line, token by token. An aligned value is put together and measured
before any of it is written, or written without a theme first to be measured.
-/

namespace StructuredLog

open CountingWriter
open Writer (put)

def Value.themedInMessage (flags : MessageFlags) (theme : Theme) (provider : Provider)
    (format : Option String) (v : Value) : CountingWriter :=
  match flags.literal, v with
  | true, .scalar (.string s) => theme.spanned .string (put s)
  | _, v => v.themedWriter flags.form theme provider format flags.literal

/-- Nothing is added to a value that has the width already. -/
def Value.alignedInMessage (flags : MessageFlags) (theme : Theme) (provider : Provider)
    (format : Option String) (a : Alignment) (v : Value) : CountingWriter :=
  let body (theme : Theme) := v.themedInMessage flags theme provider format
  if theme.canBuffer then
    buffered (body theme) fun s invisible => counted invisible <|
      if a.width ≤ s.length - invisible then put s
      else Writer.padded (some (a.widen invisible)) s
  else
    buffered (body Theme.plain) fun s _ =>
      if a.width ≤ s.length then body theme
      else beside a.side (a.width - s.length) (body theme)

def Token.themedWriter (flags : MessageFlags) (theme : Theme) (provider : Provider)
    (props : PropertyMap) : Token → CountingWriter
  | .text s => theme.spanned .text (put s)
  | .placeholder p =>
    match props.get? p.name with
    | none => theme.spanned .invalid (put p.source)
    | some v =>
      match p.alignment with
      | none => v.themedInMessage flags theme provider p.format
      | some a => v.alignedInMessage flags theme provider p.format a

def Template.themedWriter (t : Template) (flags : MessageFlags) (theme : Theme)
    (provider : Provider) (props : PropertyMap) : CountingWriter :=
  inOrder (t.tokens.map (Token.themedWriter flags theme provider props))

end StructuredLog

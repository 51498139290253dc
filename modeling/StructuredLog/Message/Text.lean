import StructuredLog.Event.Properties
import StructuredLog.Json.Value
import StructuredLog.Message.Flags
import StructuredLog.Template.Basic
import StructuredLog.Value.Text

/-!
The plain text of a message: a template with its placeholders filled in. A placeholder without a
property stays as it was written.
-/

namespace StructuredLog

/-- A value at a placeholder with the given format. Literal strings come first; JSON gives way to
the placeholder's own format. -/
def Value.inMessage (flags : MessageFlags) (provider : Provider) (format : Option String)
    (v : Value) : String :=
  match v with
  | .scalar (.string s) =>
    if flags.literal then s
    else if flags.json && format.isNone then v.json Json.messageTagName
    else v.text provider format
  | v =>
    if flags.json && format.isNone then v.json Json.messageTagName else v.text provider format

def Token.inMessage (flags : MessageFlags) (provider : Provider) (props : PropertyMap) :
    Token → String
  | .text s => s
  | .placeholder p =>
    match props.get? p.name with
    | none => p.source
    | some v =>
      let s := v.inMessage flags provider p.format
      (p.alignment.map (·.pad s)).getD s

/-- The texts that the tokens of a template stand for, one after the other. -/
def Template.message (t : Template) (flags : MessageFlags) (provider : Provider)
    (props : PropertyMap) : List String :=
  t.tokens.map (Token.inMessage flags provider props)

end StructuredLog

import StructuredLog.Json.Writer
import StructuredLog.Message.Text
import StructuredLog.Value.Writer

/-!
Writing the plain text of a message, token by token. An aligned value is put together and measured
before any of it is written.
-/

namespace StructuredLog

open Writer

def Value.inMessageWriter (flags : MessageFlags) (provider : Provider) (format : Option String)
    (v : Value) : Writer :=
  match v with
  | .scalar (.string s) =>
    if flags.literal then put s
    else if flags.json && format.isNone then v.jsonWriter Json.messageTagName
    else v.writer provider format
  | v =>
    if flags.json && format.isNone then v.jsonWriter Json.messageTagName
    else v.writer provider format

def Token.inMessageWriter (flags : MessageFlags) (provider : Provider) (props : PropertyMap) :
    Token → Writer
  | .text s => put s
  | .placeholder p =>
    match props.get? p.name with
    | none => put p.source
    | some v =>
      let w := v.inMessageWriter flags provider p.format
      match p.alignment with
      | none => w
      | some a => buffered w (padded (some a))

def Template.messageWriter (t : Template) (flags : MessageFlags) (provider : Provider)
    (props : PropertyMap) : Writer :=
  inOrder (t.tokens.map (Token.inMessageWriter flags provider props))

end StructuredLog

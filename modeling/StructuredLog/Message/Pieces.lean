import StructuredLog.Event.Properties
import StructuredLog.Message.Flags
import StructuredLog.Output.Json
import StructuredLog.Template.Basic

/-!
Messages for a themed line. Alignment counts what is visible of a value.
-/

namespace StructuredLog

def MessageFlags.form (flags : MessageFlags) : ValueForm := if flags.json then .json else .display

def Value.messagePieces (flags : MessageFlags) (provider : Provider) (format : Option String)
    (v : Value) : List Piece :=
  match flags.literal, v with
  | true, .scalar (.string s) => [.span .string s]
  | _, v => v.pieces flags.form provider format flags.literal

def Token.messagePieces (flags : MessageFlags) (provider : Provider) (props : PropertyMap) :
    Token → List Piece
  | .text s => [.span .text s]
  | .placeholder p =>
    match props.get? p.name with
    | none => [.span .invalid p.source]
    | some v => Piece.align p.alignment (v.messagePieces flags provider p.format)

def Template.messagePieces (t : Template) (flags : MessageFlags) (provider : Provider)
    (props : PropertyMap) : List Piece :=
  t.tokens.flatMap (Token.messagePieces flags provider props)

end StructuredLog

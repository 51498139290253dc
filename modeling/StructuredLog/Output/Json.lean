import StructuredLog.Json.Value
import StructuredLog.Output.Display

/-!
Values as JSON for a themed line. The text is the compact one with a space after each comma and
colon.
-/

namespace StructuredLog

def Scalar.jsonStyle : Scalar → Style
  | .null => .null
  | .string _ => .string
  | .integer _ | .f32 _ | .f64 _ => .number
  | .bool _ => .boolean
  | _ => .scalar

/-- Keys of numbers and booleans have no style of their own. -/
def Scalar.keyStyle : Scalar → Style
  | .null => .null
  | .string _ => .string
  | _ => .scalar

def jsonName (style : Style) (name : String) (item : List Piece) : List Piece :=
  .span style (Json.quoted name) :: mark ": " :: item

mutual

def Value.jsonPieces : Value → List Piece
  | .scalar s => [.span s.jsonStyle s.json]
  | .sequence items => mark "[" :: commaSeparated (itemJsonPieces items) ++ [mark "]"]
  | .record tag members =>
    mark "\x7b" :: commaSeparated (memberJsonPieces members ++
      (tag.map fun t => jsonName .name Json.messageTagName
        [.span .string (Json.quoted t)]).toList) ++ [mark "\x7d"]
  | .dictionary entries =>
    mark "\x7b" :: commaSeparated (entryJsonPieces entries) ++ [mark "\x7d"]

def itemJsonPieces : List Value → List (List Piece)
  | [] => []
  | v :: vs => v.jsonPieces :: itemJsonPieces vs

def memberJsonPieces : List (String × Value) → List (List Piece)
  | [] => []
  | (name, v) :: ms => jsonName .name name v.jsonPieces :: memberJsonPieces ms

def entryJsonPieces : List (Scalar × Value) → List (List Piece)
  | [] => []
  | (key, v) :: es => jsonName key.keyStyle key.text v.jsonPieces :: entryJsonPieces es

end

/-- The form of values in themed output. -/
inductive ValueForm where
  | display
  | json
  deriving DecidableEq, Repr

/-- A value in one of the forms. A scalar on its own that is to be literal is displayed in either
form; the JSON form has no use for a format otherwise. -/
def Value.pieces (form : ValueForm) (provider : Provider) (format : Option String) (literal : Bool)
    (v : Value) : List Piece :=
  match form, v with
  | .display, v => v.display provider format
  | .json, .scalar s =>
    if literal then [s.display provider format] else Value.jsonPieces (.scalar s)
  | .json, v => v.jsonPieces

end StructuredLog

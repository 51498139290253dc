import StructuredLog.Json.Scalar
import StructuredLog.Output.Piece
import StructuredLog.Value.Basic

/-!
Values for a themed line: `[1, 2]`, `Tag {A=1}` and `{["k"]=v}`, with strings in JSON quotes. Every
part is a span in the style of its kind, except the space after a tag.
-/

namespace StructuredLog

def mark (s : String) : Piece := .span .tertiaryText s

/-- Groups of pieces with a comma between them. -/
def commaSeparated (groups : List (List Piece)) : List Piece := [mark ", "].intercalate groups

/-- A scalar in the style of its kind. The provider is not asked for null, strings, booleans and
characters. -/
def Scalar.display (provider : Provider) (format : Option String) (s : Scalar) : Piece :=
  match s with
  | .null => .span .null "null"
  | .string t => .span .string (if format = some "l" then t else Json.quoted t)
  | .integer _ | .f32 _ | .f64 _ => .span .number (s.render format provider)
  | .bool b => .span .boolean (if b then "true" else "false")
  | .char c => .span .scalar (String.ofList ['\x27', c, '\x27'])
  | s => .span .scalar (s.render format provider)

mutual

def Value.display (provider : Provider) (format : Option String) : Value → List Piece
  | .scalar s => [s.display provider format]
  | .sequence items => mark "[" :: commaSeparated (itemDisplays provider format items) ++ [mark "]"]
  | .record tag members =>
    ((tag.map fun t => [.span .name t, .plain " "]).getD []) ++
      mark "\x7b" :: commaSeparated (memberDisplays provider members) ++ [mark "\x7d"]
  | .dictionary entries =>
    mark "\x7b" :: commaSeparated (entryDisplays provider entries) ++ [mark "\x7d"]

def itemDisplays (provider : Provider) (format : Option String) : List Value → List (List Piece)
  | [] => []
  | v :: vs => v.display provider format :: itemDisplays provider format vs

def memberDisplays (provider : Provider) : List (String × Value) → List (List Piece)
  | [] => []
  | (name, v) :: ms =>
    (.span .name name :: mark "=" :: v.display provider none) :: memberDisplays provider ms

def entryDisplays (provider : Provider) : List (Scalar × Value) → List (List Piece)
  | [] => []
  | (key, v) :: es =>
    (mark "[" :: key.display provider none :: mark "]=" :: v.display provider none) ::
      entryDisplays provider es

end

end StructuredLog

import StructuredLog.Scalar.Format
import StructuredLog.Value.Basic

/-!
The plain text of values: `[1, 2]`, `Tag { A: 1 }` and `[("k": v)]`. A format reaches the items of a
sequence, and neither the members of a record nor the entries of a dictionary.
-/

namespace StructuredLog

mutual

def Value.text (provider : Provider) (format : Option String) : Value → String
  | .scalar s => s.render format provider
  | .sequence items => "[" ++ ", ".intercalate (itemTexts provider format items) ++ "]"
  | .record tag members =>
    ((tag.map (· ++ " ")).getD "") ++ "\x7b " ++ ", ".intercalate (memberTexts provider members) ++
      " \x7d"
  | .dictionary entries => "[" ++ ", ".intercalate (entryTexts provider entries) ++ "]"

def itemTexts (provider : Provider) (format : Option String) : List Value → List String
  | [] => []
  | v :: vs => v.text provider format :: itemTexts provider format vs

def memberTexts (provider : Provider) : List (String × Value) → List String
  | [] => []
  | (name, v) :: ms => (name ++ ": " ++ v.text provider none) :: memberTexts provider ms

def entryTexts (provider : Provider) : List (Scalar × Value) → List String
  | [] => []
  | (key, v) :: es =>
    ("(" ++ key.render none provider ++ ": " ++ v.text provider none ++ ")") ::
      entryTexts provider es

end

end StructuredLog

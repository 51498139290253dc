import StructuredLog.Json.Scalar
import StructuredLog.Value.Basic

/-!
Values as compact JSON. A record's tag is its last member; a dictionary's keys are written by their
plain text.
-/

namespace StructuredLog

/-- The member that holds a record's tag unless another name is chosen. -/
def Json.defaultTagName : String := "_typeTag"

/-- The member that holds a record's tag in messages and event lines. -/
def Json.messageTagName : String := "$type"

mutual

def Value.json (tagName : String) : Value → String
  | .scalar s => s.json
  | .sequence items => "[" ++ ",".intercalate (itemJsons tagName items) ++ "]"
  | .record tag members =>
    "\x7b" ++ ",".intercalate (memberJsons tagName members ++
      (tag.map fun t => Json.quoted tagName ++ ":" ++ Json.quoted t).toList) ++ "\x7d"
  | .dictionary entries => "\x7b" ++ ",".intercalate (entryJsons tagName entries) ++ "\x7d"

def itemJsons (tagName : String) : List Value → List String
  | [] => []
  | v :: vs => v.json tagName :: itemJsons tagName vs

def memberJsons (tagName : String) : List (String × Value) → List String
  | [] => []
  | (name, v) :: ms => (Json.quoted name ++ ":" ++ v.json tagName) :: memberJsons tagName ms

def entryJsons (tagName : String) : List (Scalar × Value) → List String
  | [] => []
  | (key, v) :: es => (Json.quoted key.text ++ ":" ++ v.json tagName) :: entryJsons tagName es

end

end StructuredLog

import StructuredLog.Options.Reading
import StructuredLog.Yaml.Document
import StructuredLog.Yaml.Writer

/-!
Options as YAML texts. Written options name every field; read ones may leave any of them out.
-/

namespace StructuredLog

namespace Yaml

def nullTag : String := "tag:yaml.org,2002:null"
def flagTag : String := "tag:yaml.org,2002:bool"
def integerTag : String := "tag:yaml.org,2002:int"

/-- The text of a scalar that may stand for something else than a text: a plain one with any tag, or
a literal one that has a tag for it. -/
def word? (tag : String) : Node → Option String
  | .scalar p s =>
    if s.style = .plain || s.style = .literal && p.tag = some tag then some s.text else none
  | _ => none

def text? : Node → Option String
  | .scalar _ s => some s.text
  | _ => none

/-- Whether nothing is given. A tag of another type makes a value of each scalar. -/
def isAbsent? : Node → Option Bool
  | .scalar p s =>
    if s.style ≠ .plain then some false
    else match p.tag with
      | none => some (Plain.isNull s.text)
      | some t =>
        if t ≠ nullTag then some false
        else if Plain.isNullWord s.text then some true else none
  | _ => some false

/-- The choice that a key names by its text, or by a tag of the document's own on nothing. -/
def choice? : Node → Option String
  | .scalar p s =>
    match p.tag.map String.toList with
    | some ('!' :: name) =>
      if s.style = .plain && Plain.isNull s.text then some (String.ofList name) else none
    | _ => some s.text
  | _ => none

/-- The entries of a mapping, or of nothing at all. -/
def entries? : Node → Option (List (Node × Node))
  | .mapping _ es => some es
  | .scalar _ s => if s = .empty then some [] else none
  | _ => none

/-- Settings as the nodes of a document give them. -/
def settings (root : Node) : Settings Node where
  text? n := text? (root.target n)
  flag? n := (word? flagTag (root.target n)).bind Plain.flag?
  count? n := do
    let count ← (word? integerTag (root.target n)).bind Plain.natural?
    if count ≤ Settings.maxCount then some count else none
  isAbsent? n := isAbsent? (root.target n)
  fields? n := do (← entries? (root.target n)).mapM fun (k, v) => do
    return (← text? (root.target k), v)
  choices? n := do (← entries? (root.target n)).mapM fun (k, v) => do
    return (← choice? (root.target k), v)

end Yaml

namespace Options

def ofYaml? (s : String) : Option Options := do
  let root ← Yaml.Node.parse? s
  Options.read? (Yaml.settings root) root

def flagText (b : Bool) : String := if b then "true" else "false"

def countText (n : Option Nat) : String := (n.map toString).getD "null"

def themeYaml : Option (List (Style × String)) → String
  | none => " null\n"
  | some [] => " \x7b\x7d\n"
  | some styles =>
    "\n" ++ String.join (styles.map fun (s, t) =>
      "  " ++ (if Yaml.Plain.isAmbiguous s.key then Yaml.singleQuoted 0 s.key.toList else s.key) ++
        ":" ++ Yaml.textAfterKey 2 t)

def yaml (o : Options) : String :=
  "output_template:" ++ Yaml.textAfterKey 0 o.outputTemplate ++
  "use_utc_timestamp: " ++ flagText o.universalTime ++ "\n" ++
  "max_destructuring_depth: " ++ toString o.depth ++ "\n" ++
  "max_string_length: " ++ countText o.textLength ++ "\n" ++
  "max_collection_count: " ++ countText o.itemCount ++ "\n" ++
  "propagate_capture_errors: " ++ flagText o.strict ++ "\n" ++
  "theme:" ++ themeYaml o.theme

end Options

end StructuredLog

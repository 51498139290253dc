import StructuredLog.Event.Basic
import StructuredLog.Json.Value

/-!
Events as one line of JSON each. The names of the standard members start with one `@`; a property
name that starts with `@` is written with one more.
-/

namespace StructuredLog

def compactName (name : String) : String :=
  if name.toList.head? = some '@' then "@" ++ name else name

/-- The written members of an event line, in order. -/
def Event.compactMembers (e : Event) (tagName : String) : List String :=
  ["\"@t\":" ++ Json.quoted (Calendar.zonedText e.timestamp),
   "\"@mt\":" ++ Json.quoted e.template.text] ++
  (if e.level = .information then [] else ["\"@l\":" ++ Json.quoted e.level.name]) ++
  (e.exception.map fun x => "\"@x\":" ++ Json.quoted x.fullText).toList ++
  e.properties.entries.map fun (name, v) =>
    Json.quoted (compactName name) ++ ":" ++ v.json tagName

def Event.compact (e : Event) (tagName : String) : String :=
  "\x7b" ++ ",".intercalate (e.compactMembers tagName) ++ "\x7d\n"

end StructuredLog

import StructuredLog.Event.Compact
import StructuredLog.Json.Writer

/-!
Writing an event as one line of JSON, member by member.
-/

namespace StructuredLog

open Writer Json

def Event.compactWriter (e : Event) (tagName : String) : Writer :=
  inOrder [
    put "\x7b\"@t\":", quotedWriter (Calendar.zonedText e.timestamp),
    put ",\"@mt\":", quotedWriter e.template.text,
    if e.level = .information then inOrder []
    else inOrder [put ",\"@l\":", quotedWriter e.level.name],
    (e.exception.map fun x => inOrder [put ",\"@x\":", quotedWriter x.fullText]).getD (inOrder []),
    inOrder (e.properties.entries.map fun (name, v) =>
      (put ",").andThen (memberWriter (compactName name) (v.jsonWriter tagName))),
    put "\x7d\n"]

end StructuredLog

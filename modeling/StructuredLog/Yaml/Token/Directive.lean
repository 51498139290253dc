import StructuredLog.Text.Digits
import StructuredLog.Yaml.Token

/-!
Directives before a document: the version of the language, and handles of tags.
-/

namespace StructuredLog.Yaml

/-- A number of at most nine digits. -/
def versionNumber? (c : Cursor) : Option (Nat × Cursor) := do
  let digits := c.run Char.isDigit
  guard (digits.length ≤ 9)
  return (← Text.nat? digits, c.skip digits.length)

def version? (c : Cursor) : Option (Token × Cursor) := do
  let (major, c) ← versionNumber? (c.past isBlank)
  guard (c.rest.head? = some '.')
  let (minor, c) ← versionNumber? c.next
  return (.version major minor, c)

def handle? (c : Cursor) : Option (Token × Cursor) := do
  let c := c.past isBlank
  let length ← handleLength? c.rest
  let handle := c.rest.take length
  let c := c.skip length
  guard (c.rest.head?.any isBlank)
  let c := c.past isBlank
  let meaning := c.run isFullTagChar
  let c := c.skip meaning.length
  guard (!meaning.isEmpty && endsWord c.rest)
  return (.handle (String.ofList handle) (← tagName? meaning), c)

/-- A directive whose percent sign stands here, and the line below it. -/
def directive? (c : Cursor) : Option (Token × Cursor) := do
  let c := c.next
  let name := c.run isNameChar
  let c := c.skip name.length
  guard (endsWord c.rest)
  let (t, c) ← match String.ofList name with
    | "YAML" => version? c
    | "TAG" => handle? c
    | _ => none
  return (t, ← c.nextLine?)

end StructuredLog.Yaml

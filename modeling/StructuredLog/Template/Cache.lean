import StructuredLog.Diagnostics.Basic
import StructuredLog.Template.Basic

/-!
A bounded cache of parsed templates. Parsed templates are objects with an identity, so that a hit
can be told from a second parse. A full cache is emptied before the next template is kept.
-/

namespace StructuredLog

/-- Argument numbers beside names are reported, and bind by name. -/
def Template.diagnostics (t : Template) : List Diagnostic :=
  if t.isMixed then [.mixedTemplate t.text] else []

/-- A parsed template and the number of its creation. -/
structure SharedTemplate where
  serial : Nat
  template : Template
  deriving DecidableEq, Repr

structure TemplateCache where
  /-- The latest first, each under its own text. -/
  entries : List SharedTemplate := []
  created : Nat := 0
  deriving DecidableEq, Repr

namespace TemplateCache

def capacity : Nat := 1000

/-- Texts of more characters are parsed every time. -/
def maxTextLength : Nat := 1024

def find? (c : TemplateCache) (text : String) : Option SharedTemplate :=
  c.entries.find? (·.template.text == text)

/-- Parses without looking into the cache. -/
def create (c : TemplateCache) (text : String) : TemplateCache × SharedTemplate :=
  ({ c with created := c.created + 1 }, ⟨c.created, .parse text⟩)

def keep (c : TemplateCache) (t : SharedTemplate) : TemplateCache :=
  { c with entries := t :: if c.entries.length < capacity then c.entries else [] }

/-- The template of a text, with the diagnostics of a parse if one was needed. -/
def parse (c : TemplateCache) (text : String) :
    TemplateCache × SharedTemplate × List Diagnostic :=
  if maxTextLength < text.length then
    let (c, t) := c.create text
    (c, t, t.template.diagnostics)
  else match c.find? text with
    | some t => (c, t, [])
    | none =>
      let (c, t) := c.create text
      (c.keep t, t, t.template.diagnostics)

end TemplateCache

end StructuredLog

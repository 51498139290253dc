import StructuredLog.Template.Scan

/-!
Message templates: a source text with its tokens, and what can be asked of the placeholders.
-/

namespace StructuredLog

structure Template where
  text : String
  tokens : List Token
  deriving DecidableEq, Repr

/-- How placeholders find their values. -/
inductive Binding where
  | none
  | named
  | positional
  deriving DecidableEq, Repr

namespace Template

def parse (s : String) : Template := ⟨s, tokenize s⟩

def placeholders (t : Template) : List Placeholder := t.tokens.filterMap Token.placeholder?

/-- Positional only if every placeholder has an argument number. -/
def binding (t : Template) : Binding :=
  if t.placeholders.isEmpty then .none
  else if t.placeholders.all (·.position?.isSome) then .positional
  else .named

/-- Argument numbers and names are mixed. -/
def isMixed (t : Template) : Bool :=
  t.binding == .named && t.placeholders.any (·.position?.isSome)

def mentions (t : Template) (name : String) : Bool := t.placeholders.any (·.name == name)

end Template

end StructuredLog

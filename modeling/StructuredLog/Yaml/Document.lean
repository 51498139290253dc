import StructuredLog.Yaml.Node.OfTokens
import StructuredLog.Yaml.Token.Lexer

/-!
YAML texts of one document, with the directives before it.
-/

namespace StructuredLog.Yaml.Document

/-- What the directives before a document say. -/
structure Preamble where
  version : Option (Nat × Nat) := none
  handles : List (String × String) := []

def isVersion : Nat → Nat → Bool
  | 1, minor => minor = 1 || minor = 2
  | _, _ => false

/-- Directives and the tokens after them. None may be given twice. -/
def preamble? (p : Preamble) : List Token → Option (Preamble × List Token)
  | .version major minor :: ts =>
    if p.version.isNone && isVersion major minor then
      preamble? { p with version := some (major, minor) } ts
    else none
  | .handle h meaning :: ts =>
    if (p.handles.lookup h).isNone then
      preamble? { p with handles := p.handles ++ [(h, meaning)] } ts
    else none
  | ts => some (p, ts)

def isDocumentToken : Token → Bool
  | .version _ _ | .handle _ _ | .documentStart | .documentEnd => true
  | _ => false

/-- The node after the start of a document. -/
def contents? (p : Preamble) (ts : List Token) : Option (Node × List Token) :=
  if ts.head?.all isDocumentToken then some (.empty, ts) else Node.ofTokens? p.handles ts

/-- The first document. One that has directives says where it starts. -/
def first? (ts : List Token) : Option (Node × List Token) := do
  match ← preamble? {} ts with
  | (p, .documentStart :: rest) => contents? p rest
  | (_, rest) => if rest.length = ts.length then Node.ofTokens? [] ts else none

/-- The node of tokens that hold one document, or none. -/
def ofTokens? (ts : List Token) : Option Node := do
  if ts.isEmpty then return .empty
  let (n, rest) ← first? ts
  if rest.all (· = .documentEnd) then some n else none

end StructuredLog.Yaml.Document

namespace StructuredLog.Yaml

/-- The node of a text. -/
def Node.parse? (s : String) : Option Node := do Document.ofTokens? (← Token.ofString? s)

end StructuredLog.Yaml

import StructuredLog.Template.Token

/-!
Writing tokens as template source. Text has its braces doubled; a tag is put together from its
parts alone, without its recorded source.
-/

namespace StructuredLog

def Alignment.written (a : Alignment) : String :=
  (match a.side with | .left => "-" | .right => "") ++ toString a.width

/-- The tag that says what the parts of `p` say. -/
def Placeholder.written (p : Placeholder) : String :=
  String.ofList ('{' :: p.hint.mark?.toList) ++ p.name ++
    (match p.alignment with | some a => "," ++ a.written | none => "") ++
    (match p.format with | some f => ":" ++ f | none => "") ++ "\x7d"

def doubleBraces (cs : List Char) : List Char :=
  cs.flatMap fun c => if c = '{' ∨ c = '}' then [c, c] else [c]

def Token.written : Token → String
  | .text s => String.ofList (doubleBraces s.toList)
  | .placeholder p => p.written

/-- The source text of a list of tokens. -/
def Template.written (ts : List Token) : String := String.join (ts.map Token.written)

end StructuredLog

/-!
The characters of YAML texts: which may stand in one, which end a line, and which separate words.
-/

namespace StructuredLog.Yaml

/-- Other control characters may only be written as escapes. -/
def isAllowed (c : Char) : Bool :=
  let n := c.toNat
  c = '\t' || c = '\n' || c = '\r' || 0x20 ≤ n && n ≤ 0x7e || n = 0x85 ||
    0xa0 ≤ n && n ≤ 0xfffd || 0x10000 ≤ n

def isBlank (c : Char) : Bool := c = ' ' || c = '\t'

def isBreak (c : Char) : Bool :=
  c = '\n' || c = '\r' || c = '\u0085' || c = '\u2028' || c = '\u2029'

def isGap (c : Char) : Bool := isBlank c || isBreak c

/-- Whether a word ends before a text. -/
def endsWord : List Char → Bool
  | [] => true
  | c :: _ => isGap c || c = '\x00'

/-- The characters of anchors, of directives and of the handles of tags. -/
def isNameChar (c : Char) : Bool := c.isAlphanum || c = '_' || c = '-'

/-- The characters between the parts of a flow collection. -/
def flowIndicators : List Char := [',', '[', ']', '{', '}']

/-- The characters that no plain scalar starts with. -/
def indicators : List Char :=
  flowIndicators ++ ['#', '&', '*', '!', '|', '>', '\x27', '"', '%', '@', '\x60']

def byteOrderMark : Char := '\ufeff'

/-- One kind of newline. The separators of lines and of paragraphs end lines too, but stay what
they are. -/
def unifyBreaks : List Char → List Char
  | '\r' :: '\n' :: cs => '\n' :: unifyBreaks cs
  | c :: cs => (if c = '\r' || c = '\u0085' then '\n' else c) :: unifyBreaks cs
  | [] => []

/-- The characters of a text that holds allowed ones alone, without a mark in front. -/
def characters? (s : String) : Option (List Char) :=
  if s.toList.all isAllowed then
    match s.toList with
    | c :: cs => some (unifyBreaks (if c = byteOrderMark then cs else c :: cs))
    | [] => some []
  else none

end StructuredLog.Yaml

import StructuredLog.Text.Digits
import StructuredLog.Yaml.Scalar.Meaning
import StructuredLog.Yaml.Scalar.Quoted

/-!
Writing texts as YAML scalars. A text of lines is a literal block, one that would be read as
something else is quoted, and one with characters that cannot be written stands in double quotes
with escapes.
-/

namespace StructuredLog.Yaml

-- Powers are the core library's, also where others are in scope.
attribute [local instance (2000)] instPowNat

def isPrintable (c : Char) : Bool :=
  let n := c.toNat
  c = '\n' || 0x20 ≤ n && n ≤ 0x7e || 0xa0 ≤ n && n ≤ 0xfffd && n ≠ 0xfeff || 0x10000 ≤ n

/-- Whether a colon or a hash sign inside of a text would end it. -/
def hasIndicator (blank : Bool) : List Char → Bool
  | [] => false
  | c :: cs =>
    c = ':' && endsWord cs || c = '#' && blank || hasIndicator (isGap c) cs

def startsWithIndicator : List Char → Bool
  | [] => false
  | '-' :: '-' :: '-' :: _ => true
  | '.' :: '.' :: '.' :: _ => true
  | c :: cs => indicators.contains c || (c = '?' || c = ':' || c = '-') && endsWord cs

/-- Whether two characters of given kinds follow each other. -/
def hasPair (p q : Char → Bool) : List Char → Bool
  | a :: b :: cs => p a && q b || hasPair p q (b :: cs)
  | _ => false

def isSpaceOrBreak (c : Char) : Bool := c = ' ' || isBreak c

def hasSpecial (cs : List Char) : Bool :=
  !cs.all isPrintable || hasPair (· = ' ') isBreak cs

def canBePlain (cs : List Char) : Bool :=
  !(hasSpecial cs || cs.any isBreak || (cs.head?.any isSpaceOrBreak) ||
    (cs.getLast?.any isSpaceOrBreak) || startsWithIndicator cs || hasIndicator false (cs.drop 1))

def canBeSingle (cs : List Char) : Bool :=
  !(hasSpecial cs || hasPair isBreak (· = ' ') cs)

def canBeLiteral (cs : List Char) : Bool :=
  !(cs.isEmpty || hasSpecial cs || cs.getLast? = some ' ')

/-- A text of lines that are indented unless they are empty. -/
def indented (indent : Nat) : (start : Bool) → List Char → List Char
  | _, [] => []
  | start, c :: cs =>
    (if start && !isBreak c then List.replicate indent ' ' else []) ++
      c :: indented indent (isBreak c) cs

/-- A text in single quotes. Its lines but the first are indented, and so is the closing quote if it
starts a line. -/
def singleQuoted (indent : Nat) (cs : List Char) : String :=
  let lines := indented indent false (cs.flatMap fun c => if c = '\x27' then [c, c] else [c])
  let last := if cs.getLast?.any isBreak then List.replicate indent ' ' else []
  "\x27" ++ String.ofList (lines ++ last) ++ "\x27"

def hexCode (mark : Char) (width n : Nat) : List Char :=
  let digits := (List.range width).map fun i => Text.hexDigit (n / 16 ^ (width - 1 - i) % 16)
  '\\' :: mark :: digits

/-- The letter after the backslash for a character that has one of its own. -/
def escapeLetter? (c : Char) : Option Char :=
  ((escapes.filter fun e => e.1 ≠ '/' && e.1 ≠ ' ' && e.1 ≠ '\t').find? (·.2 = c)).map (·.1)

def escapedChar (c : Char) : List Char :=
  if isPrintable c && !isBreak c && c ≠ '"' && c ≠ '\\' then [c]
  else match escapeLetter? c with
    | some l => ['\\', l]
    | none =>
      if c.toNat < 0x100 then hexCode 'x' 2 c.toNat
      else if c.toNat < 0x10000 then hexCode 'u' 4 c.toNat
      else hexCode 'U' 8 c.toNat

def doubleQuoted (cs : List Char) : String :=
  "\"" ++ String.ofList (cs.flatMap escapedChar) ++ "\""

/-- A block says how deep it is if it starts with a space or a break, and what comes of the breaks
at its end unless it is one. -/
def literalHeader (cs : List Char) : String :=
  let depth := if cs.head?.any isSpaceOrBreak then "2" else ""
  let chomp :=
    if !(cs.getLast?.any isBreak) then "-"
    else if cs.length = 1 || cs.dropLast.getLast?.any isBreak then "+"
    else ""
  "|" ++ depth ++ chomp

/-- The lines of a block, of which the last one may lack its break. -/
def literalLines (indent : Nat) (cs : List Char) : String :=
  String.ofList (indented indent true cs) ++ if cs.getLast?.any isBreak then "" else "\n"

/-- A text after a key in some column, up to the end of its line or block. -/
def textAfterKey (col : Nat) (s : String) : String :=
  let cs := s.toList
  if cs.contains '\n' then
    if canBeLiteral cs then " " ++ literalHeader cs ++ "\n" ++ literalLines (col + 2) cs
    else " " ++ doubleQuoted cs ++ "\n"
  else if canBePlain cs && !Plain.isAmbiguous s then " " ++ s ++ "\n"
  else if canBeSingle cs then " " ++ singleQuoted (col + 2) cs ++ "\n"
  else " " ++ doubleQuoted cs ++ "\n"

end StructuredLog.Yaml

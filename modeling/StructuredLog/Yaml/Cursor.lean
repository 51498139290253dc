import StructuredLog.Yaml.Character

/-!
A place in a YAML text: what is left of it, and the line and column where that starts.
-/

namespace StructuredLog.Yaml

structure Cursor where
  rest : List Char
  line : Nat := 0
  column : Nat := 0
  /-- How many bytes were passed. -/
  offset : Nat := 0

namespace Cursor

def next (c : Cursor) : Cursor :=
  match c.rest with
  | [] => c
  | x :: rest =>
    let offset := c.offset + x.utf8Size
    if isBreak x then ⟨rest, c.line + 1, 0, offset⟩ else ⟨rest, c.line, c.column + 1, offset⟩

def skip : Nat → Cursor → Cursor
  | 0, c => c
  | n + 1, c => skip n c.next

/-- The longest run of characters of one kind that starts here. -/
def run (c : Cursor) (p : Char → Bool) : List Char := c.rest.takeWhile p

def past (c : Cursor) (p : Char → Bool) : Cursor := c.skip (c.run p).length

/-- Whether a word stands at the start of a line, by itself. -/
def startsLine (c : Cursor) (word : List Char) : Bool :=
  c.column = 0 && word.isPrefixOf c.rest && endsWord (c.rest.drop word.length)

def startsDocument (c : Cursor) : Bool := c.startsLine ['-', '-', '-']

def endsDocument (c : Cursor) : Bool := c.startsLine ['.', '.', '.']

def atDocumentMark (c : Cursor) : Bool := c.startsDocument || c.endsDocument

/-- The start of a comment or of a line's end. -/
def pastComment (c : Cursor) : Cursor :=
  if c.rest.head? = some '#' then c.past fun x => !isBreak x else c

/-- The next line, if at most a comment is left of this one. -/
def nextLine? (c : Cursor) : Option Cursor :=
  let c := (c.past isBlank).pastComment
  match c.rest with
  | [] => some c
  | x :: _ => if isBreak x then some c.next else none

end Cursor

end StructuredLog.Yaml

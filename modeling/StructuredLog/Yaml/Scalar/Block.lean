import StructuredLog.Yaml.Scalar.Basic

/-!
Scalars as blocks of indented lines. The breaks of a literal block stay; those of a folded one are
folded between lines that start with a character other than a blank.
-/

namespace StructuredLog.Yaml

/-- What is done with the breaks at the end of a block. -/
inductive Chomp where
  | clip
  | strip
  | keep
  deriving DecidableEq, Repr

def chomp? : Char → Option Chomp
  | '-' => some .strip
  | '+' => some .keep
  | _ => none

def depth? (c : Char) : Option Nat := if c.isDigit then some (c.toNat - '0'.toNat) else none

/-- What the header of a block tells about its lines. -/
structure BlockHeader where
  chomp : Chomp := .clip
  /-- How much deeper the lines are than what surrounds the block. -/
  depth : Option Nat := none

/-- The marks of a header, in either order, and how many they are. A depth is not zero. -/
def blockHeader? : List Char → Option (BlockHeader × Nat)
  | [] => some ({}, 0)
  | a :: cs =>
    match chomp? a, depth? a with
    | some k, _ =>
      match cs.head?.bind depth? with
      | some 0 => none
      | some d => some (⟨k, some d⟩, 2)
      | none => some (⟨k, none⟩, 1)
    | none, some 0 => none
    | none, some d =>
      match cs.head?.bind chomp? with
      | some k => some (⟨k, some d⟩, 2)
      | none => some (⟨.clip, some d⟩, 1)
    | none, none => some ({}, 0)

/-- The indentation of a line, up to the one of the block where that is known. -/
def indentation (indent : Option Nat) (c : Cursor) : Nat :=
  let spaces := (c.run (· = ' ')).length
  match indent with
  | some n => min spaces (n - c.column)
  | none => spaces

/-- The breaks of the lines from here on that hold nothing, the widest indentation seen, and the
place behind the indentation of the next line. Tabs do not indent. -/
def emptyLines? (indent : Option Nat) : Nat → (widest : Nat) → Cursor →
    Option (List Char × Nat × Cursor)
  | 0, _, _ => none
  | fuel + 1, widest, c =>
    let c := c.skip (indentation indent c)
    let widest := max widest c.column
    match c.rest with
    | [] => some ([], widest, c)
    | x :: _ =>
      if x = '\t' && indent.all (c.column < ·) then none
      else if isBreak x then prepend [x] (emptyLines? indent fuel widest c.next)
      else some ([], widest, c)

/-- A line of a block with the break that ends it and those of the empty lines below. -/
structure BlockLine where
  text : List Char
  ending : List Char
  empty : List Char

/-- The lines of a block, and what follows them. -/
def blockLines? (indent : Nat) : Nat → Cursor → Option (List BlockLine × Cursor)
  | 0, _ => none
  | fuel + 1, c =>
    if c.column = indent && !c.rest.isEmpty then do
      let text := c.run fun x => !isBreak x
      let c := c.skip text.length
      let ending := c.rest.take 1
      let (empty, _, c) ← emptyLines? (some indent) (fuel + 1) 0 c.next
      let (lines, c) ← blockLines? indent fuel c
      return (⟨text, ending, empty⟩ :: lines, c)
    else some ([], c)

def BlockLine.startsBlank (l : BlockLine) : Bool := l.text.head?.any isBlank

/-- Whether the break between two lines is folded. -/
def BlockLine.folds (l m : BlockLine) : Bool :=
  l.ending = ['\n'] && !l.startsBlank && !m.startsBlank

def BlockLine.tail (l : BlockLine) : Chomp → List Char
  | .strip => []
  | .clip => l.ending
  | .keep => l.ending ++ l.empty

/-- The text of lines, of which the last ones are chomped. -/
def joinLines (folded : Bool) (chomp : Chomp) : List BlockLine → List Char
  | [] => []
  | [l] => l.text ++ l.tail chomp
  | l :: m :: ls =>
    let between :=
      if folded && l.folds m then if l.empty.isEmpty then [' '] else l.empty
      else l.ending ++ l.empty
    l.text ++ between ++ joinLines folded chomp (m :: ls)

/-- A block whose mark stands here. Its lines are indented by the limit at least, and the first of
them or an empty one above it shows by how much. -/
def block? (limit : Nat) (c : Cursor) : Option (Scalar × Cursor) := do
  let folded := c.rest.head? = some '>'
  let (header, length) ← blockHeader? (c.rest.drop 1)
  let c ← (c.skip (length + 1)).nextLine?
  let given := header.depth.map (limit - 1 + ·)
  let (leading, widest, c) ← emptyLines? given (c.rest.length + 1) 0 c
  let (lines, c) ← blockLines? (given.getD (max widest (max limit 1))) (c.rest.length + 1) c
  let text :=
    if lines.isEmpty then if header.chomp = .keep then leading else []
    else leading ++ joinLines folded header.chomp lines
  return (⟨String.ofList text, if folded then .folded else .literal⟩, c)

end StructuredLog.Yaml

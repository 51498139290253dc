import StructuredLog.Keyed
import StructuredLog.Yaml.Node
import StructuredLog.Yaml.Token

/-!
Nodes of tokens. Block and flow collections have rules of their own for what may be left out: an
empty scalar stands there.
-/

namespace StructuredLog.Yaml.Node

namespace Reading

/-- The tokens to come and the anchors so far, with the number that each name has now. -/
structure Source where
  tokens : List Token
  anchors : List (String × Nat) := []

end Reading

abbrev Reading := StateT Reading.Source Option

namespace Reading

def peek : Reading (Option Token) := do return (← get).tokens.head?

def pass : Reading Unit := modify fun s => { s with tokens := s.tokens.tail }

def accept (t : Token) : Reading Bool := do
  if (← peek) = some t then
    pass
    return true
  else return false

def expect (t : Token) : Reading Unit := do guard (← accept t)

/-- Whether one of some tokens comes next. -/
def isNext (ts : List Token) : Reading Bool := do return (← peek).any ts.contains

/-- Numbers an anchor by how many names there are. A name that is there already gets a number that
the next new one shares. -/
def newAnchor (name : String) : Reading Nat := do
  let s ← get
  let n := s.anchors.length
  set { s with anchors := Keyed.put name n s.anchors }
  return n

def aliasOf (name : String) : Reading Node := do
  match (← get).anchors.lookup name with
  | some n => return .alias n
  | none => failure

def anchor? : Reading (Option Nat) := do
  match ← peek with
  | some (.anchor name) =>
    pass
    return some (← newAnchor name)
  | _ => return none

/-- A tag by its full name. -/
def tag? (handles : List (String × String)) : Reading (Option String) := do
  match ← peek with
  | some (.tag t) =>
    pass
    return some (← t.name? handles)
  | _ => return none

/-- An anchor and a tag, in either order. -/
def properties (handles : List (String × String)) : Reading Properties := do
  match ← anchor? with
  | some n => return ⟨← tag? handles, some n⟩
  | none => return ⟨← tag? handles, ← anchor?⟩

/-- An exclamation mark alone says of a scalar no more than no tag. -/
def scalarProperties (p : Properties) : Properties :=
  if p.tag = some "!" then { p with tag := none } else p

/-- What ends an item or a part of an entry of a block before it begins. -/
def blockStops : List Token := [.key, .value, .blockEnd]

mutual

/-- A node, which may be a block collection in a block, and dashes of its own below a key. -/
def node (handles : List (String × String)) : Nat → (block dashes : Bool) → Reading Node
  | 0, _, _ => failure
  | fuel + 1, block, dashes => do
    if let some (.alias name) ← peek then
      pass
      return ← aliasOf name
    let p ← properties handles
    match ← peek, block, dashes with
    | some .dash, _, true => return .sequence p (← dashItems handles fuel)
    | some (.scalar s), _, _ =>
      pass
      return .scalar (scalarProperties p) s
    | some .openSequence, _, _ =>
      pass
      return .sequence p (← flowItems handles fuel true)
    | some .openMapping, _, _ =>
      pass
      return .mapping p (← flowEntries handles fuel true)
    | some .blockSequence, true, _ =>
      pass
      return .sequence p (← blockItems handles fuel)
    | some .blockMapping, true, _ =>
      pass
      return .mapping p (← blockEntries handles fuel)
    | _, _, _ => if p = {} then failure else return .scalar p .empty

/-- A node, unless a token comes that ends its place. -/
def nodeUnless (handles : List (String × String)) : Nat → (stops : List Token) →
    (block dashes : Bool) → Reading Node
  | 0, _, _, _ => failure
  | fuel + 1, stops, block, dashes => do
    if ← isNext stops then return .empty else node handles fuel block dashes

/-- Items in the column of the key above them. -/
def dashItems (handles : List (String × String)) : Nat → Reading (List Node)
  | 0 => failure
  | fuel + 1 => do
    if ← accept .dash then
      let item ← nodeUnless handles fuel (.dash :: blockStops) true false
      return item :: (← dashItems handles fuel)
    else return []

def blockItems (handles : List (String × String)) : Nat → Reading (List Node)
  | 0 => failure
  | fuel + 1 => do
    if ← accept .dash then
      let item ← nodeUnless handles fuel [.dash, .blockEnd] true false
      return item :: (← blockItems handles fuel)
    else
      expect .blockEnd
      return []

def blockEntries (handles : List (String × String)) : Nat → Reading (List (Node × Node))
  | 0 => failure
  | fuel + 1 => do
    if ← accept .key then
      let key ← nodeUnless handles fuel blockStops true true
      let v ← if ← accept .value then nodeUnless handles fuel blockStops true true
        else pure .empty
      return (key, v) :: (← blockEntries handles fuel)
    else
      expect .blockEnd
      return []

/-- Items with commas between them, of which the last one may have a comma too. -/
def flowItems (handles : List (String × String)) : Nat → (first : Bool) → Reading (List Node)
  | 0, _ => failure
  | fuel + 1, first => do
    if ← accept .closeSequence then return []
    unless first do
      expect .comma
    if ← accept .closeSequence then return []
    let item ← if ← accept .key then flowEntry handles fuel else node handles fuel false false
    return item :: (← flowItems handles fuel false)

/-- An entry as an item, which is a mapping of its own. The token that ends an empty key is passed,
be it the mark of a value. -/
def flowEntry (handles : List (String × String)) : Nat → Reading Node
  | 0 => failure
  | fuel + 1 => do
    let stops := [Token.comma, .closeSequence]
    let key ← if ← isNext (.value :: stops) then
        pass
        pure .empty
      else node handles fuel false false
    let v ← if ← accept .value then nodeUnless handles fuel stops false false else pure .empty
    return .mapping {} [(key, v)]

/-- Entries with commas between them. A key without a colon needs no mark. -/
def flowEntries (handles : List (String × String)) :
    Nat → (first : Bool) → Reading (List (Node × Node))
  | 0, _ => failure
  | fuel + 1, first => do
    if ← accept .closeMapping then return []
    unless first do
      expect .comma
    if ← accept .closeMapping then return []
    let stops := [Token.comma, .closeMapping]
    let entry ← if ← accept .key then
        let key ← nodeUnless handles fuel (.value :: stops) false false
        let v ← if ← accept .value then nodeUnless handles fuel stops false false else pure .empty
        pure (key, v)
      else do
        pure (← node handles fuel false false, .empty)
    return entry :: (← flowEntries handles fuel false)

end

end Reading

/-- The node at the start of some tokens, and those after it. Each token takes at most three
calls. -/
def ofTokens? (handles : List (String × String)) (ts : List Token) :
    Option (Node × List Token) := do
  let (n, s) ← Reading.node handles (3 * ts.length + 3) true false { tokens := ts }
  return (n, s.tokens)

end StructuredLog.Yaml.Node

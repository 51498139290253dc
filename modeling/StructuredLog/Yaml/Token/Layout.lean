import StructuredLog.Yaml.Token

/-!
The layout of a text up to some place: its tokens, the block and flow collections that are open
there, and where a key may have begun in each of them.
-/

namespace StructuredLog.Yaml

/-- Where a key may have begun: it is one if a colon follows on its line. -/
structure OpenKey where
  /-- The number of tokens before it. -/
  place : Nat
  start : Cursor
  /-- Nothing but a key can stand there. -/
  required : Bool

/-- A key is less than this many bytes long. -/
def OpenKey.maxLength : Nat := 1024

def OpenKey.isStale (k : OpenKey) (c : Cursor) : Bool :=
  k.start.line < c.line || k.start.offset + maxLength < c.offset

structure Layout where
  tokens : Array Token := #[]
  /-- The columns of the open block collections, of which the innermost comes first. -/
  indents : List Nat := []
  key : Option OpenKey := none
  /-- The keys around each open flow collection. -/
  outer : List (Option OpenKey) := []
  /-- Whether a key or an item of a block may begin here. -/
  keyAllowed : Bool := true

namespace Layout

def inFlow (l : Layout) : Bool := !l.outer.isEmpty

/-- The first column inside of the innermost block collection. -/
def limit (l : Layout) : Nat :=
  match l.indents with
  | [] => 0
  | column :: _ => column + 1

def push (l : Layout) (t : Token) : Layout := { l with tokens := l.tokens.push t }

def insert (l : Layout) (place : Nat) (t : Token) : Layout :=
  { l with tokens := l.tokens.insertIdxIfInBounds place t }

/-- A block collection begins before a token, if its column is further right. -/
def openBlock (l : Layout) (column place : Nat) (t : Token) : Layout :=
  if !l.inFlow && l.limit ≤ column then
    { l with indents := column :: l.indents }.insert place t
  else l

def closeBlocksWhile (l : Layout) (p : Nat → Bool) : Layout :=
  if l.inFlow then l
  else
    let closed := l.indents.takeWhile p
    { l with
      tokens := l.tokens ++ closed.map fun _ => Token.blockEnd
      indents := l.indents.drop closed.length }

/-- Ends the block collections further right than a column. -/
def closeBlocks (l : Layout) (column : Nat) : Layout := l.closeBlocksWhile (column < ·)

def closeAllBlocks (l : Layout) : Layout := l.closeBlocksWhile fun _ => true

/-- No key begins after all where one might; it is an error where one had to. -/
def dropKey? (l : Layout) : Option Layout :=
  if l.key.any (·.required) then none else some { l with key := none }

/-- A key may begin here, where it is allowed to. -/
def startKey? (l : Layout) (c : Cursor) : Option Layout := do
  if l.keyAllowed then
    let required := !l.inFlow && l.indents.head? = some c.column
    return { ← l.dropKey? with key := some ⟨l.tokens.size, c, required⟩ }
  else return l

def withoutStale? (c : Cursor) : Option OpenKey → Option (Option OpenKey)
  | some k => if !k.isStale c then some (some k) else if k.required then none else some none
  | none => some none

/-- Drops the keys for which no colon comes any more. -/
def dropStaleKeys? (l : Layout) (c : Cursor) : Option Layout := do
  return { l with key := ← withoutStale? c l.key, outer := ← l.outer.mapM (withoutStale? c) }

def allowKey (l : Layout) (b : Bool) : Layout := { l with keyAllowed := b }

/-- What may be a key by itself, or begin one. -/
def scalarLike? (l : Layout) (c : Cursor) : Option Layout :=
  (l.startKey? c).map (·.allowKey false)

def openFlow? (l : Layout) (c : Cursor) (t : Token) : Option Layout := do
  let l ← l.startKey? c
  return { l with key := none, outer := l.key :: l.outer, keyAllowed := true }.push t

def closeFlow? (l : Layout) (t : Token) : Option Layout := do
  let l ← l.dropKey?
  let l := match l.outer with
    | [] => l
    | key :: outer => { l with key, outer }
  return (l.allowKey false).push t

def comma? (l : Layout) : Option Layout := do
  return ((← l.dropKey?).allowKey true).push .comma

/-- The item of a block or a key with a mark of its own, which only begins where a key may. -/
def openItem? (l : Layout) (column : Nat) (collection : Token) : Option Layout :=
  if l.inFlow then some l
  else if l.keyAllowed then some (l.openBlock column l.tokens.size collection)
  else none

def dash? (l : Layout) (column : Nat) : Option Layout := do
  let l ← (← l.openItem? column .blockSequence).dropKey?
  return (l.allowKey true).push .dash

def markedKey? (l : Layout) (column : Nat) : Option Layout := do
  let l ← (← l.openItem? column .blockMapping).dropKey?
  return (l.allowKey !l.inFlow).push .key

/-- A colon makes a key of what may be one, and its column that of a mapping. -/
def value? (l : Layout) (column : Nat) : Option Layout :=
  match l.key with
  | some k =>
    let l := (l.insert k.place .key).openBlock k.start.column k.place .blockMapping
    some (({ l with key := none }.allowKey false).push .value)
  | none => (l.openItem? column .blockMapping).map fun l => (l.allowKey !l.inFlow).push .value

/-- A line that begins or ends a document, or stands before one. -/
def documentLine? (l : Layout) (t : Token) : Option Layout := do
  return ((← l.closeAllBlocks.dropKey?).allowKey false).push t

/-- All tokens, where the text ends. -/
def finish? (l : Layout) : Option (List Token) :=
  l.closeAllBlocks.dropKey?.map (·.tokens.toList)

end Layout

end StructuredLog.Yaml

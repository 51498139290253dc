import StructuredLog.Yaml.Scalar.Block
import StructuredLog.Yaml.Scalar.Plain
import StructuredLog.Yaml.Scalar.Quoted
import StructuredLog.Yaml.Token.Directive
import StructuredLog.Yaml.Token.Layout

/-!
The tokens of a text, each read by the rule that its first character calls for.
-/

namespace StructuredLog.Yaml

namespace Layout

/-- Passes blanks, comments and breaks. Tabs may not stand where a key could begin. -/
def pastGap : Nat → Layout → Cursor → Layout × Cursor
  | 0, l, c => (l, c)
  | fuel + 1, l, c =>
    let blank (x : Char) : Bool := x = ' ' || x = '\t' && (l.inFlow || !l.keyAllowed)
    let c := (c.past blank).pastComment
    if c.rest.head?.any isBreak then pastGap fuel (l.allowKey (l.keyAllowed || !l.inFlow)) c.next
    else (l, c)

/-- What may follow the name of an anchor. -/
def endsName (cs : List Char) : Bool :=
  endsWord cs || cs.head?.any ['?', ':', ',', ']', '}', '%', '@', '\x60'].contains

/-- An anchor or an alias whose mark stands here. -/
def name? (l : Layout) (c : Cursor) (token : String → Token) : Option (Layout × Cursor) := do
  let l ← l.scalarLike? c
  let name := c.next.run isNameChar
  let c := c.skip (name.length + 1)
  guard (!name.isEmpty && endsName c.rest)
  return (l.push (token (String.ofList name)), c)

def tag? (l : Layout) (c : Cursor) : Option (Layout × Cursor) := do
  let l ← l.scalarLike? c
  let (t, length) ← Yaml.tag? c.rest
  let c := c.skip length
  guard (endsWord c.rest || l.inFlow && c.rest.head? = some ',')
  return (l.push (.tag t), c)

def quoted? (l : Layout) (c : Cursor) : Option (Layout × Cursor) := do
  let l ← l.scalarLike? c
  let (s, c) ← Yaml.quoted? c
  return (l.push (.scalar s), c)

/-- A key may follow a plain scalar only on a line below it. -/
def plain? (l : Layout) (c : Cursor) : Option (Layout × Cursor) := do
  let l ← l.scalarLike? c
  let (s, broken, c) ← Yaml.plain? l.inFlow l.limit c
  return ((l.allowKey broken).push (.scalar s), c)

def block? (l : Layout) (c : Cursor) : Option (Layout × Cursor) := do
  guard !l.inFlow
  let l ← l.dropKey?
  let (s, c) ← Yaml.block? l.limit c
  return ((l.allowKey true).push (.scalar s), c)

/-- Reads the token that starts with a character. -/
def token? (l : Layout) (c : Cursor) (x : Char) (rest : List Char) : Option (Layout × Cursor) :=
  let one (l : Option Layout) : Option (Layout × Cursor) := l.map (·, c.next)
  let alone := endsWord rest
  if c.column = 0 && x = '%' then do
    let (t, c) ← directive? c
    return (← l.documentLine? t, c)
  else if c.startsDocument then (l.documentLine? .documentStart).map (·, c.skip 3)
  else if c.endsDocument then (l.documentLine? .documentEnd).map (·, c.skip 3)
  else match x with
    | '[' => one (l.openFlow? c .openSequence)
    | '{' => one (l.openFlow? c .openMapping)
    | ']' => one (l.closeFlow? .closeSequence)
    | '}' => one (l.closeFlow? .closeMapping)
    | ',' => one l.comma?
    | '-' => if alone then one (l.dash? c.column) else l.plain? c
    | '?' => if l.inFlow || alone then one (l.markedKey? c.column) else l.plain? c
    | ':' => if l.inFlow || alone then one (l.value? c.column) else l.plain? c
    | '*' => l.name? c .alias
    | '&' => l.name? c .anchor
    | '!' => l.tag? c
    | '|' | '>' => l.block? c
    | '\x27' | '"' => l.quoted? c
    | _ => if isGap x || indicators.contains x then none else l.plain? c

/-- The tokens of the rest of a text. Every step but the last passes a character. -/
def tokensFrom? : Nat → Layout → Cursor → Option (List Token)
  | 0, _, _ => none
  | fuel + 1, l, c => do
    let (l, c) := l.pastGap (fuel + 1) c
    let l ← l.dropStaleKeys? c
    let l := l.closeBlocks c.column
    match c.rest with
    | [] => l.finish?
    | x :: rest =>
      let (l, c) ← l.token? c x rest
      tokensFrom? fuel l c

end Layout

/-- The tokens of a text. -/
def Token.ofString? (s : String) : Option (List Token) := do
  let cs ← characters? s
  let start : Cursor := { rest := cs }
  let start := if cs.head? = some byteOrderMark then start.next else start
  Layout.tokensFrom? (cs.length + 1) {} start

end StructuredLog.Yaml

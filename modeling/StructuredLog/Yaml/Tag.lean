import StructuredLog.Text.Hex
import StructuredLog.Yaml.Character

/-!
Tags of nodes: a handle, which stands for the start of the tag's name, and the rest of the name.
-/

namespace StructuredLog.Yaml

structure Tag where
  handle : String
  suffix : String
  deriving DecidableEq, Repr

def isTagChar (c : Char) : Bool :=
  isNameChar c || [';', '/', '?', ':', '@', '&', '=', '+', '$', '.', '!', '~', '*', '\x27', '(',
    ')', '%'].contains c

/-- The characters of a tag in brackets, and of what a handle stands for. -/
def isFullTagChar (c : Char) : Bool := isTagChar c || c = ',' || c = '[' || c = ']'

/-- A byte as a percent sign and two digits. -/
def percentByte? : List Char → Option (Nat × List Char)
  | '%' :: a :: b :: cs => do return (16 * (← Text.hexDigit? a) + (← Text.hexDigit? b), cs)
  | _ => none

/-- The bytes of a character after the first one, with the bits of the code so far. -/
def trailingBytes? : Nat → (code : Nat) → List Char → Option (Nat × List Char)
  | 0, code, cs => some (code, cs)
  | n + 1, code, cs => do
    let (b, cs) ← percentByte? cs
    if b / 64 = 2 then trailingBytes? n (64 * code + b % 64) cs else none

/-- A character as the bytes of its encoding. One that is no character is replaced. -/
def percentChar? (cs : List Char) : Option (Char × List Char) := do
  let (b, cs) ← percentByte? cs
  let (more, bits) ←
    if b < 0x80 then some (0, b)
    else if b / 32 = 6 then some (1, b % 32)
    else if b / 16 = 14 then some (2, b % 16)
    else if b / 8 = 30 then some (3, b % 8)
    else none
  let (code, cs) ← trailingBytes? more bits cs
  let valid := code.isValidChar && (more = 0 || 0x80 ≤ code)
  return (if valid then Char.ofNat code else '\ufffd', cs)

/-- A name without its percent signs. Every step takes a character. -/
def percentDecodedFrom? : Nat → List Char → Option (List Char)
  | 0, _ => some []
  | _, [] => some []
  | fuel + 1, c :: cs =>
    if c = '%' then do
      let (d, rest) ← percentChar? (c :: cs)
      return d :: (← percentDecodedFrom? fuel rest)
    else (percentDecodedFrom? fuel cs).map (c :: ·)

/-- The name that some characters are written for. A zero byte ends it. -/
def tagName? (cs : List Char) : Option String := do
  let cs ← percentDecodedFrom? cs.length cs
  return String.ofList (cs.takeWhile (· ≠ '\x00'))

/-- The length of a handle: exclamation marks around a name, or a single one. -/
def handleLength? (cs : List Char) : Option Nat :=
  let name := (cs.drop 1).takeWhile isNameChar
  if cs.head? ≠ some '!' then none
  else if (cs.drop (name.length + 1)).head? = some '!' then some (name.length + 2)
  else if name.isEmpty then some 1
  else none

/-- A tag that starts here and its length. Without a second mark the first one is the handle, and an
exclamation mark alone is a full name. -/
def tag? (cs : List Char) : Option (Tag × Nat) := do
  if ['!', '<'].isPrefixOf cs then
    let name := (cs.drop 2).takeWhile isFullTagChar
    let length := name.length + 2
    if name.isEmpty || (cs.drop length).head? ≠ some '>' then none
    else return (⟨"", ← tagName? name⟩, length + 1)
  else
    let length := (handleLength? cs).getD 1
    let name := (cs.drop length).takeWhile isTagChar
    let suffix ← tagName? name
    if length = 1 then
      return (if suffix.isEmpty then ⟨"", "!"⟩ else ⟨"!", suffix⟩, 1 + name.length)
    else if name.isEmpty then none
    else return (⟨String.ofList (cs.take length), suffix⟩, length + name.length)

/-- What the handles stand for that need no directive. -/
def standardHandles : List (String × String) := [("!", "!"), ("!!", "tag:yaml.org,2002:")]

/-- The full name of a tag, given what other handles stand for. -/
def Tag.name? (handles : List (String × String)) (t : Tag) : Option String :=
  if t.handle.isEmpty then some t.suffix
  else ((handles ++ standardHandles).lookup t.handle).map (· ++ t.suffix)

end StructuredLog.Yaml

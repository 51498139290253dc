import StructuredLog.Text.Hex
import StructuredLog.Yaml.Scalar.Basic

/-!
Scalars in quotes. A single quote is written twice inside of its own kind; inside of double quotes a
backslash starts an escape, or joins a line to the next one.
-/

namespace StructuredLog.Yaml

def escapes : List (Char × Char) :=
  [('0', '\x00'), ('a', '\x07'), ('b', '\x08'), ('t', '\t'), ('\t', '\t'), ('n', '\n'),
    ('v', '\x0b'), ('f', '\x0c'), ('r', '\r'), ('e', '\x1b'), (' ', ' '), ('"', '"'), ('/', '/'),
    ('\\', '\\'), ('N', '\u0085'), ('_', '\u00a0'), ('L', '\u2028'), ('P', '\u2029')]

/-- How many digits the code of an escaped character has. -/
def codeLength? : Char → Option Nat
  | 'x' => some 2
  | 'u' => some 4
  | 'U' => some 8
  | _ => none

def code? (ds : List Char) : Option Char := do
  let n ← ds.foldl (fun n d => do return 16 * (← n) + (← Text.hexDigit? d)) (some 0)
  if n.isValidChar then some (Char.ofNat n) else none

/-- The character that an escape stands for, and the length of what follows the backslash. -/
def escape? : List Char → Option (Char × Nat)
  | [] => none
  | c :: cs =>
    match codeLength? c with
    | some n => if cs.length < n then none else (code? (cs.take n)).map (·, n + 1)
    | none => (escapes.lookup c).map (·, 1)

/-- The rest of a scalar, up to the closing quote. Every step passes a character. -/
def quotedFrom (quote : Char) : Nat → Cursor → Option (List Char × Cursor)
  | 0, _ => none
  | fuel + 1, c =>
    if c.atDocumentMark then none
    else match c.rest with
    | [] => none
    | x :: rest =>
      if isGap x then
        prepend (gapText (c.run isGap)) (quotedFrom quote fuel (c.past isGap))
      else if x = quote then
        if quote = '\x27' && rest.head? = some quote then
          prepend [quote] (quotedFrom quote fuel (c.skip 2))
        else some ([], c.next)
      else if x = '\\' && quote = '"' then
        if rest.head?.any isBreak then
          let next := c.skip 2
          prepend ((next.run isGap).filter isBreak) (quotedFrom quote fuel (next.past isGap))
        else do
          let (e, length) ← escape? rest
          prepend [e] (quotedFrom quote fuel (c.skip (length + 1)))
      else prepend [x] (quotedFrom quote fuel c.next)

/-- A scalar whose opening quote stands here. -/
def quoted? (c : Cursor) : Option (Scalar × Cursor) := do
  let quote ← c.rest.head?
  let (s, c) ← quotedFrom quote c.rest.length c.next
  return (⟨String.ofList s, .quoted⟩, c)

end StructuredLog.Yaml

import StructuredLog.Text.Case.Tables

/-!
Upper and lower case of whole texts by the full mappings: one character may become several
(`ß` is `SS`), and a capital sigma becomes the final form `ς` at the end of a word.
-/

namespace StructuredLog.Text

def shiftBy (runs : List CaseRun) (c : Char) : Char :=
  match runs.find? (·.contains c.toNat) with
  | some r => Char.ofNat (c.toNat + r.shift).toNat
  | none => c

def upperChar (c : Char) : List Char :=
  if c.toNat < 0x80 then [c.toUpper]
  else match upperSequences.lookup c.toNat with
    | some codes => codes.map Char.ofNat
    | none => [shiftBy upperRuns c]

/-- Only the dotted capital I has a lower case of two characters. -/
def lowerChar (c : Char) : List Char :=
  if c.toNat < 0x80 then [c.toLower]
  else if c.toNat = 0x130 then ['i', Char.ofNat 0x307]
  else [shiftBy lowerRuns c]

def isCased (c : Char) : Bool :=
  if c.toNat < 0x80 then c.isAlpha else inRanges casedRanges c.toNat

def isCaseIgnorable (c : Char) : Bool :=
  if c.toNat < 0x80 then ['\x27', '.', ':', '^', '\x60'].contains c
  else inRanges caseIgnorableRanges c.toNat

/-- A cased character comes first, once the ignorable ones are passed over. -/
def meetsCased (cs : List Char) : Bool :=
  match cs.dropWhile isCaseIgnorable with
  | c :: _ => isCased c
  | [] => false

/-- Lower case of what follows `before`, which is held last character first. -/
def lowerAfter (before : List Char) : List Char → List Char
  | [] => []
  | c :: rest =>
    (if c.toNat = 0x3A3 then
        [Char.ofNat (if meetsCased before && !meetsCased rest then 0x3C2 else 0x3C3)]
      else lowerChar c) ++ lowerAfter (c :: before) rest

def upper (s : String) : String := String.ofList (s.toList.flatMap upperChar)

def lower (s : String) : String := String.ofList (lowerAfter [] s.toList)

end StructuredLog.Text

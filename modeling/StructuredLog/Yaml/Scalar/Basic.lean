import StructuredLog.Yaml.Cursor

/-!
Scalars, and how the lines of one are joined: breaks within quoted and plain scalars are folded.
-/

namespace StructuredLog.Yaml

inductive ScalarStyle where
  | plain
  | quoted
  | literal
  | folded
  deriving DecidableEq, Repr

structure Scalar where
  text : String
  style : ScalarStyle
  deriving DecidableEq, Repr

/-- What stands where nothing is written. -/
def Scalar.empty : Scalar := ⟨"", .plain⟩

/-- A newline alone is a space, and one before others is dropped. -/
def foldBreaks : List Char → List Char
  | ['\n'] => [' ']
  | '\n' :: bs => bs
  | bs => bs

/-- What a gap between words stands for: blanks count unless there are breaks. -/
def gapText (gap : List Char) : List Char :=
  if gap.any isBreak then foldBreaks (gap.filter isBreak) else gap

/-- Part of a scalar in front of what is read after it. -/
def prepend (s : List Char) (r : Option (List Char × β)) : Option (List Char × β) :=
  r.map fun (t, rest) => (s ++ t, rest)

end StructuredLog.Yaml

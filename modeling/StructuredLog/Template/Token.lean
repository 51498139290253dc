import StructuredLog.Text.Alignment
import StructuredLog.Text.Digits

/-!
The pieces of a message template: literal text, and placeholders `{@Name,-10:format}` that name a
property, say how it is captured and aligned, and carry a format for its text.
-/

namespace StructuredLog

/-- How a value is captured: by its own kind, by its members (`@`), or by its text alone (`$`). -/
inductive Hint where
  | default
  | destructure
  | stringify
  deriving DecidableEq, Repr

def Hint.ofMark? : Char → Option Hint
  | '@' => some .destructure
  | '$' => some .stringify
  | _ => none

def Hint.mark? : Hint → Option Char
  | .default => none
  | .destructure => some '@'
  | .stringify => some '$'

theorem Hint.mark?_eq_some_iff {h : Hint} {c : Char} :
    h.mark? = some c ↔ Hint.ofMark? c = some h := by
  constructor
  · cases h <;> simp only [mark?, Option.some.injEq, reduceCtorEq, false_implies] <;>
      rintro rfl <;> rfl
  · unfold ofMark?
    split <;> simp only [Option.some.injEq, reduceCtorEq, false_implies] <;> rintro rfl <;> rfl

structure Placeholder where
  name : String
  /-- The tag as it stands in the template, braces included. -/
  source : String
  format : Option String
  alignment : Option Alignment
  hint : Hint
  deriving DecidableEq, Repr

/-- The argument number that an all-digit name gives, if it fits 31 bits. -/
def Placeholder.position? (p : Placeholder) : Option Nat :=
  (Text.nat? p.name.toList).filter (· ≤ 0x7fffffff)

inductive Token where
  | text (s : String)
  | placeholder (p : Placeholder)
  deriving DecidableEq, Repr

def Token.placeholder? : Token → Option Placeholder
  | .placeholder p => some p
  | .text _ => none

/-- Text with doubled braces already undone, or a tag as it was written. -/
def Token.source : Token → String
  | .text s => s
  | .placeholder p => p.source

end StructuredLog

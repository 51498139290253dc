import StructuredLog.Scalar.Basic

/-!
Captured values: scalars, sequences, records of named members with an optional type tag, and
dictionaries from scalars to values, all in the order in which they were captured.
-/

namespace StructuredLog

inductive Value where
  | scalar (s : Scalar)
  | sequence (items : List Value)
  | record (tag : Option String) (members : List (String × Value))
  | dictionary (entries : List (Scalar × Value))

namespace Value

def null : Value := .scalar .null

def scalar? : Value → Option Scalar
  | .scalar s => some s
  | _ => none

def isNull : Value → Bool
  | .scalar s => s.isNull
  | _ => false

/-- The first member of a record with a name. -/
def member? (name : String) : Value → Option Value
  | .record _ members => (members.find? (·.1 == name)).map (·.2)
  | _ => none

/-- The value at the first key of a dictionary that equals the given one. -/
def entry? (key : Scalar) : Value → Option Value
  | .dictionary entries => (entries.find? (·.1.equals key)).map (·.2)
  | _ => none

end Value

end StructuredLog

/-!
What is known of the type of a captured value: its full name, and two marks. The unqualified name
tags the records made of its values, unless the type was written by no one.
-/

namespace StructuredLog.Capture

structure TypeDesc where
  /-- A path of segments between `::`, generic arguments included. -/
  fullName : String
  isEnum : Bool := false
  anonymous : Bool := false
  deriving DecidableEq, Repr

/-- What stands before and after the last `::`. -/
def cutLast? : List Char → Option (List Char × List Char)
  | [] => none
  | c :: cs =>
    match cutLast? cs with
    | some (before, after) => some (c :: before, after)
    | none =>
      match c, cs with
      | ':', ':' :: after => some ([], after)
      | _, _ => none

theorem eq_of_cutLast? {cs before after : List Char} (h : cutLast? cs = some (before, after)) :
    cs = before ++ ':' :: ':' :: after := by
  induction cs generalizing before with
  | nil => simp [cutLast?] at h
  | cons c cs ih =>
    simp only [cutLast?] at h
    split at h
    · next e =>
      obtain ⟨rfl, rfl⟩ := by simpa using h
      rw [ih e, List.cons_append]
    · split at h
      · obtain ⟨rfl, rfl⟩ := by simpa using h
        rfl
      · simp at h

/-- Whether a pattern stands somewhere in a text. -/
def occursIn (pattern : List Char) : List Char → Bool
  | [] => pattern.isEmpty
  | c :: cs => pattern.isPrefixOf (c :: cs) || occursIn pattern cs

namespace TypeDesc

/-- The name without generic arguments. -/
def base (t : TypeDesc) : List Char := t.fullName.toList.takeWhile (· ≠ '<')

/-- Tuples, arrays, references and pointers have no path, and are named in full. -/
def isPathless (t : TypeDesc) : Bool :=
  match t.fullName.toList with
  | c :: _ => c = '(' || c = '[' || c = '&' || c = '*'
  | [] => false

def name (t : TypeDesc) : String :=
  if t.isPathless then t.fullName
  else String.ofList (((cutLast? t.base).map (·.2)).getD t.base)

def namespace? (t : TypeDesc) : Option String := (cutLast? t.base).map (String.ofList ·.1)

def isGeneric (t : TypeDesc) : Bool := t.fullName.toList.any (· = '<')

def closureName : List Char := "\x7b\x7bclosure\x7d\x7d".toList

/-- Closures, qualified projections and types marked anonymous. -/
def isCompilerGenerated (t : TypeDesc) : Bool :=
  let name := t.name.toList
  t.anonymous || name.head? = some '\x7b' || name.head? = some '<' || occursIn closureName name

end TypeDesc

end StructuredLog.Capture

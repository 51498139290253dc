import StructuredLog.Capture.TypeDesc
import StructuredLog.Scalar.Basic
import StructuredLog.Scalar.Format

/-!
The values of a host program as capture sees them. A host shows each value by one look at its
shape, whose parts are again values of the host, so that values may share parts and be cyclic. Only
wrappers, which stand for what they hold, must end.
-/

namespace StructuredLog.Capture

/-- The failure of a property's accessor: the full name of the error's type, and its text. -/
structure AccessError where
  typeName : String
  text : String
  deriving DecidableEq, Repr

/-- Where the value of a property comes from. -/
inductive Source (α : Type) where
  | field (value : α)
  /-- An accessor, known by its number. It gives its value or fails where it is called. -/
  | getter (accessor : Nat) (result : Except AccessError α)
  | unsupported

inductive Member (α : Type) where
  | property (name : String) (source : Source α)
  /-- Takes arguments, and so is never captured. -/
  | indexer (name : String)

inductive Shape (α : Type) where
  | null
  | scalar (s : Scalar)
  | text (s : String)
  /-- A variant of an enumeration, by name. -/
  | variant (name : String)
  | wrapper (inner : α)
  | sequence (items : List α)
  /-- A sequence of bytes that lie together. -/
  | bytes (data : List UInt8)
  /-- Standard maps are dictionaries by themselves, others only where registered. -/
  | map (key : TypeDesc) (standard : Bool) (entries : List (α × α))
  | tuple (items : List α)
  | function
  | typeInfo
  | object (members : List (Member α))

/-- What a value shows. Types are registered by `registeredAs`; it is the full name for all but
values that describe their type themselves. -/
structure Look (α : Type) where
  shape : Shape α
  type : TypeDesc
  registeredAs : String
  /-- The text that the value gives itself. -/
  ownText? : Option String := none

structure Host (α : Type) where
  look : α → Look α
  /-- How many wrappers lie around what a value stands for, at most. -/
  wraps : α → Nat
  wraps_lt : ∀ {a b}, (look a).shape = .wrapper b → wraps b < wraps a

namespace Look

/-- The text of a value that is no wrapper. -/
def text (l : Look α) : String :=
  l.ownText?.getD <| match l.shape with
    | .null => ""
    | .scalar s => s.text
    | .text s => s
    | .variant name => name
    | _ => l.type.fullName

end Look

namespace Host

/-- What a value stands for once its wrappers are taken off. -/
def unwrap (h : Host α) (a : α) : α :=
  match _e : (h.look a).shape with
  | .wrapper b => h.unwrap b
  | _ => a
termination_by h.wraps a
decreasing_by exact h.wraps_lt _e

theorem unwrap_of_wrapper (h : Host α) {a b : α} (e : (h.look a).shape = .wrapper b) :
    h.unwrap a = h.unwrap b := by
  rw [unwrap]
  split
  · next e' => rw [e] at e'; cases e'; rfl
  · next e' => exact absurd e (e' b)

theorem unwrap_of_not_wrapper (h : Host α) {a : α} (n : ∀ b, (h.look a).shape ≠ .wrapper b) :
    h.unwrap a = a := by
  rw [unwrap]
  split
  · next e => exact absurd e (n _)
  · rfl

/-- What a value stands for is no wrapper. -/
theorem look_unwrap_ne_wrapper (h : Host α) (a b : α) :
    (h.look (h.unwrap a)).shape ≠ .wrapper b := by
  induction n : h.wraps a using Nat.strongRecOn generalizing a with
  | _ n ih =>
    subst n
    by_cases w : ∃ b, (h.look a).shape = .wrapper b
    · obtain ⟨c, e⟩ := w
      rw [h.unwrap_of_wrapper e]
      exact ih _ (h.wraps_lt e) c rfl
    · rw [h.unwrap_of_not_wrapper (by simpa using w)]
      exact fun e => w ⟨b, e⟩

/-- What a value stands for, as it shows itself. -/
def inside (h : Host α) (a : α) : Look α := h.look (h.unwrap a)

def text (h : Host α) (a : α) : String := (h.inside a).text

end Host

end StructuredLog.Capture

/-!
Alignment: a least width, and the side on which a shorter text stands. Widths count characters.
-/

namespace StructuredLog

/-- Where an aligned text stands: `left` has its padding after it. -/
inductive Side where
  | left
  | right
  deriving DecidableEq, Repr

/-- Widths are 64-bit counts. -/
def Alignment.maxWidth : Nat := 0xffffffffffffffff

structure Alignment where
  side : Side
  width : Nat
  width_le : width ≤ Alignment.maxWidth
  deriving DecidableEq, Repr

def spaces (n : Nat) : String := String.ofList (List.replicate n ' ')

def Side.pad (side : Side) (n : Nat) (s : String) : String :=
  match side with
  | .left => s ++ spaces n
  | .right => spaces n ++ s

namespace Alignment

/-- Room for `extra` more characters, such as escape sequences that take no space on screen. -/
def widen (a : Alignment) (extra : Nat) : Alignment where
  side := a.side
  width := min (a.width + extra) maxWidth
  width_le := Nat.min_le_right _ _

/-- A text that has the width already is left as it is. -/
def pad (a : Alignment) (s : String) : String := a.side.pad (a.width - s.length) s

end Alignment

@[simp] theorem length_spaces (n : Nat) : (spaces n).length = n := by simp [spaces]

@[simp] theorem Side.length_pad (side : Side) (n : Nat) (s : String) :
    (side.pad n s).length = s.length + n := by
  cases side <;> simp [Side.pad, Nat.add_comm]

@[simp] theorem Alignment.length_pad (a : Alignment) (s : String) :
    (a.pad s).length = max s.length a.width := by
  simp only [Alignment.pad, Side.length_pad]
  omega

end StructuredLog

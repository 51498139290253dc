import StructuredLog.Json.Document

/-!
The floating-point number that a JSON number is read as. At most the leading digits that fit 64 bits
count; they are converted, and then scaled by one power of ten, each step rounding once.
-/

namespace StructuredLog.Json

/-- The leading digits that fit 64 bits, with the exponent of the last of them. -/
def leading (mantissa : Nat) (exponent : Int) : Nat × Int :=
  if mantissa ≤ 0xffffffffffffffff then (mantissa, exponent)
  else leading (mantissa / 10) (exponent + 1)
termination_by mantissa

/-- The greatest power of ten below the largest number. -/
def maxPower : Nat := 308

/-- A number divided by a power of ten, which may itself be too large to write. -/
def scaleDown (x : Float) (n : Nat) : Float :=
  if n ≤ maxPower then x / Float.ofScientific 1 false n
  else scaleDown (x / Float.ofScientific 1 false maxPower) (n - maxPower)
termination_by n
decreasing_by unfold maxPower at *; omega

def magnitude (mantissa : Nat) (exponent : Int) : Float :=
  let (digits, e) := leading mantissa exponent
  if digits = 0 then 0
  else if e ≥ 0 then Float.ofNat digits * Float.ofScientific 1 false e.toNat
  else scaleDown (Float.ofNat digits) (-e).toNat

def Number.float : Number → Float
  | .integer n => if n < 0 then -magnitude n.natAbs 0 else magnitude n.natAbs 0
  | .decimal negative mantissa exponent =>
    if negative then -magnitude mantissa exponent else magnitude mantissa exponent

end StructuredLog.Json

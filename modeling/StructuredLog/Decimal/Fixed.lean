import StructuredLog.Decimal.Shortest
import StructuredLog.Text.Digits

/-!
Decimals with a given number of places: the exact binary value is rounded once, and a tie goes to
the even neighbour.
-/

namespace StructuredLog.Decimal

-- Powers are the core library's, also where others are in scope.
attribute [local instance (2000)] instPowNat

/-- The integer nearest to `n / d`; of two that are equally near, the even one. -/
def roundDiv (n d : Nat) : Nat :=
  let q := n / d
  let r := n % d
  if d < 2 * r ∨ d = 2 * r ∧ q % 2 = 1 then q + 1 else q

/-- The magnitude in units of `10 ^ k`, rounded. -/
def Binary.rounded (b : Binary) (k : Int) : Nat :=
  roundDiv (numerator b.significand b.exponent (-k)) (denominator b.exponent (-k))

/-- The magnitude with `places` digits after the point, as digits before and after it. -/
def Binary.fixed (b : Binary) (places : Nat) : List Char × List Char :=
  let ds := (Text.padded (places + 1) (b.rounded (-places))).toList
  (ds.take (ds.length - places), ds.drop (ds.length - places))

/-- The largest `k` from the given one downwards with `10 ^ k` not above the magnitude. -/
def leadingFrom (b : Binary) : Nat → Int → Int
  | 0, k => k
  | steps + 1, k =>
    if denominator b.exponent (-k) ≤ numerator b.significand b.exponent (-k) then k
    else leadingFrom b steps (k - 1)

/-- One digit before the point, `places` after it, and a power of ten. -/
def Binary.scientific (b : Binary) (places : Nat) : Nat × Int :=
  if b.significand = 0 then (0, 0)
  else
    let k := leadingFrom b 8 b.ceiling
    let digits := b.rounded (k - places)
    if digits = 10 ^ (places + 1) then (10 ^ places, k + 1) else (digits, k)

end StructuredLog.Decimal

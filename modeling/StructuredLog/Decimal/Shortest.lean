import StructuredLog.Decimal.Binary

/-!
The shortest decimal that reads back as a given binary number, and of those the nearest. The real
numbers that round to the number form an interval, with its ends if the significand is even. From
the coarsest decimal grid on, the neighbours of the number on the grid are tried.
-/

namespace StructuredLog.Decimal

/-- The number `digits * 10 ^ exponent`. -/
structure Digits where
  digits : Nat
  exponent : Int
  deriving DecidableEq, Repr

/-- The neighbour of the number on the grid of multiples of `10 ^ k` that rounds to it; the nearer
one of two, and the upper one of two that are equally near. -/
def onGrid? (b : Binary) (k : Int) : Option Digits :=
  let unit := numerator 1 b.exponent (-k)
  let grid := 4 * denominator b.exponent (-k)
  let value := 4 * b.significand * unit
  let low := (4 * b.significand - if b.narrowBelow then 1 else 2) * unit
  let high := (4 * b.significand + 2) * unit
  let closed := b.significand % 2 = 0
  let below := value / grid
  let belowFits := low < below * grid ∨ closed ∧ low = below * grid
  let aboveFits := (below + 1) * grid < high ∨ closed ∧ (below + 1) * grid = high
  if aboveFits ∧ (¬ belowFits ∨ (below + 1) * grid - value ≤ value - below * grid) then
    some ⟨below + 1, k⟩
  else if belowFits ∧ 0 < below then some ⟨below, k⟩
  else none

/-- Tries the grids from `10 ^ k` downwards. Seventeen digits tell any two doubles apart, so the
steps do not run out. -/
def search (b : Binary) : Nat → Int → Digits
  | 0, k => ⟨numerator b.significand b.exponent (-k) / denominator b.exponent (-k), k⟩
  | steps + 1, k => (onGrid? b k).getD (search b steps (k - 1))

def Binary.shortest (b : Binary) : Digits :=
  if b.significand = 0 then ⟨0, 0⟩ else search b 24 b.ceiling

/-- Positional notation, never with an exponent. -/
def Digits.positional (d : Digits) : List Char :=
  let ds := (toString d.digits).toList
  if 0 ≤ d.exponent then ds ++ List.replicate d.exponent.toNat '0'
  else
    let places := (-d.exponent).toNat
    let ds := List.replicate (places + 1 - ds.length) '0' ++ ds
    ds.take (ds.length - places) ++ '.' :: ds.drop (ds.length - places)

/-- The shortest text that reads back, in positional notation. -/
def Binary.text (b : Binary) : String :=
  String.ofList ((if b.negative then ['-'] else []) ++ b.shortest.positional)

end StructuredLog.Decimal

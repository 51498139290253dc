import Mathlib
import StructuredLog.Decimal.Shortest

/-!
A shortest decimal that is a multiple of ten or more has a digit other than zero, so that zeros
written after it never follow a zero alone.
-/

namespace StructuredLog.Decimal

-- Powers are the core library's, also where others are in scope.
attribute [local instance (2000)] instPowNat

theorem onGrid?_pos {b : Binary} {k : Int} {d : Digits} (found : onGrid? b k = some d) :
    0 < d.digits := by
  unfold onGrid? at found
  extract_lets unit grid value low high closed below belowFits aboveFits at found
  split at found
  · obtain rfl := Option.some.inj found
    exact Nat.succ_pos _
  · split at found
    · next fits =>
      obtain rfl := Option.some.inj found
      exact fits.2
    · contradiction

theorem search_pos {b : Binary} {steps : Nat} {k : Int}
    (reached : 0 < k - steps → denominator b.exponent (-(k - steps)) ≤
      numerator b.significand b.exponent (-(k - steps)))
    (coarse : 0 < (search b steps k).exponent) : 0 < (search b steps k).digits := by
  induction steps generalizing k with
  | zero =>
    simp only [search, Int.natCast_zero, Int.sub_zero] at reached coarse ⊢
    exact Nat.div_pos (reached coarse) (Nat.mul_pos (Nat.two_pow_pos _) (Nat.pow_pos (by decide)))
  | succ steps ih =>
    rw [search] at coarse ⊢
    cases found : onGrid? b k with
    | some d => exact onGrid?_pos found
    | none =>
      rw [found, Option.getD_none] at coarse
      refine ih ?_ coarse
      rwa [Int.natCast_succ, add_comm, ← Int.sub_sub] at reached

/-- A thousand is less than two to the tenth. -/
theorem ten_pow_le_two_pow {k n : Nat} (enough : 10 * k ≤ 3 * n) : 10 ^ k ≤ 2 ^ n := by
  refine (Nat.pow_le_pow_iff_left (by decide : 3 ≠ 0)).mp ?_
  calc (10 ^ k) ^ 3 = (10 ^ 3) ^ k := Nat.pow_right_comm 10 k 3
    _ ≤ (2 ^ 10) ^ k := Nat.pow_le_pow_left (by decide) k
    _ = 2 ^ (10 * k) := (Nat.pow_mul 2 10 k).symm
    _ ≤ 2 ^ (3 * n) := Nat.pow_le_pow_right (by decide) enough
    _ = (2 ^ n) ^ 3 := by rw [Nat.mul_comm, Nat.pow_mul]

/-- The number is far below the powers at which the estimate of `ceiling` goes wrong. -/
def Binary.Moderate (b : Binary) : Prop := b.exponent + b.significand.log2 ≤ 4000

theorem log2_le_of_lt {n k : Nat} (lt : n < 2 ^ (k + 1)) : n.log2 ≤ k := by
  by_cases zero : n = 0
  · subst zero
    exact Nat.zero_le k
  · exact Nat.le_of_lt_succ ((Nat.log2_lt zero).mpr lt)

theorem bits_le_of_ofBits {fraction exponent bits : Nat} {b : Binary}
    (decoded : Decoded.ofBits fraction exponent bits = .finite b) :
    b.exponent + b.significand.log2 ≤ 2 ^ exponent := by
  have fractionBits : bits % 2 ^ fraction < 2 ^ fraction := Nat.mod_lt _ (Nat.two_pow_pos _)
  have exponentBits : bits / 2 ^ fraction % 2 ^ exponent < 2 ^ exponent :=
    Nat.mod_lt _ (Nat.two_pow_pos _)
  have bias : (0 : Int) < 2 ^ (exponent - 1) := Int.pow_pos (by decide)
  have cast : ((2 ^ exponent : Nat) : Int) = 2 ^ exponent := Int.natCast_pow 2 exponent
  have width : 2 ^ (fraction + 1) = 2 * 2 ^ fraction := Nat.pow_succ'
  unfold Decoded.ofBits at decoded
  extract_lets f e negative least at decoded
  have start : least = 2 - 2 ^ (exponent - 1) - fraction := rfl
  split at decoded
  · split at decoded <;> contradiction
  split at decoded
  · obtain rfl := Decoded.finite.inj decoded
    have log : f.log2 ≤ fraction := log2_le_of_lt (by omega)
    dsimp only
    omega
  · obtain rfl := Decoded.finite.inj decoded
    have log : (2 ^ fraction + f).log2 ≤ fraction := log2_le_of_lt (by omega)
    dsimp only
    omega

theorem moderate_ofBits32 {bits : UInt32} {b : Binary}
    (decoded : Decoded.ofBits32 bits = .finite b) : b.Moderate :=
  Int.le_trans (bits_le_of_ofBits decoded) (by decide)

theorem moderate_ofBits64 {bits : UInt64} {b : Binary}
    (decoded : Decoded.ofBits64 bits = .finite b) : b.Moderate :=
  Int.le_trans (bits_le_of_ofBits decoded) (by decide)

/-- The last grid that is tried is not coarser than the number, if it is coarser than ones. -/
theorem reached_of_moderate {b : Binary} (moderate : b.Moderate) (nonzero : b.significand ≠ 0)
    {k : Int} (pos : 0 < k) (le : k ≤ b.ceiling - 24) :
    denominator b.exponent (-k) ≤ numerator b.significand b.exponent (-k) := by
  have bits : b.exponent + b.significand.log2 ≤ 4000 := moderate
  simp only [Binary.ceiling] at le
  have power : 10 ^ k.toNat ≤ 2 ^ (b.exponent + b.significand.log2).toNat :=
    ten_pow_le_two_pow (by omega)
  have exponents : (-b.exponent).toNat + (b.exponent + b.significand.log2).toNat =
      b.significand.log2 + b.exponent.toNat := by omega
  rw [denominator, numerator, Int.neg_neg, show (-k).toNat = 0 by omega, Nat.pow_zero, Nat.mul_one]
  calc 2 ^ (-b.exponent).toNat * 10 ^ k.toNat
      ≤ 2 ^ (-b.exponent).toNat * 2 ^ (b.exponent + b.significand.log2).toNat :=
        Nat.mul_le_mul_left _ power
    _ = 2 ^ b.significand.log2 * 2 ^ b.exponent.toNat := by
        rw [← Nat.pow_add, exponents, Nat.pow_add]
    _ ≤ b.significand * 2 ^ b.exponent.toNat :=
        Nat.mul_le_mul_right _ (Nat.log2_self_le nonzero)

theorem shortest_pos {b : Binary} (moderate : b.Moderate) (coarse : 0 < b.shortest.exponent) :
    0 < b.shortest.digits := by
  unfold Binary.shortest at coarse ⊢
  split at coarse
  · contradiction
  next nonzero =>
  rw [if_neg nonzero]
  exact search_pos (fun pos => reached_of_moderate moderate nonzero pos (Int.le_refl _)) coarse

end StructuredLog.Decimal

/-!
Binary floating-point numbers from their bits: a sign, a significand and a power of two.
-/

namespace StructuredLog.Decimal

-- Powers are the core library's, also where others are in scope.
attribute [local instance (2000)] instPowNat

/-- The number `± significand * 2 ^ exponent`. The gap to the next number below is half as wide as
the gap above where `narrowBelow` holds. -/
structure Binary where
  negative : Bool
  significand : Nat
  exponent : Int
  narrowBelow : Bool
  deriving DecidableEq, Repr

inductive Decoded where
  | finite (b : Binary)
  | infinite (negative : Bool)
  | nan
  deriving DecidableEq, Repr

/-- Reads a format with `fraction` bits of fraction above which stand `exponent` bits of exponent
and the sign. -/
def Decoded.ofBits (fraction exponent bits : Nat) : Decoded :=
  let f := bits % 2 ^ fraction
  let e := bits / 2 ^ fraction % 2 ^ exponent
  let negative := bits / 2 ^ (fraction + exponent) % 2 = 1
  let least : Int := 2 - 2 ^ (exponent - 1) - fraction
  if e = 2 ^ exponent - 1 then
    if f = 0 then .infinite negative else .nan
  else if e = 0 then .finite ⟨negative, f, least, false⟩
  else .finite ⟨negative, 2 ^ fraction + f, least + (e - 1), f = 0 ∧ 1 < e⟩

def Decoded.ofBits64 (bits : UInt64) : Decoded := .ofBits 52 11 bits.toNat

def Decoded.ofBits32 (bits : UInt32) : Decoded := .ofBits 23 8 bits.toNat

/-- The same number among those with a significand of `width` bits. -/
def Binary.widen (width : Nat) (b : Binary) : Binary :=
  let shift := width - (b.significand.log2 + 1)
  if b.significand = 0 then b
  else
    let s := b.significand * 2 ^ shift
    { b with significand := s, exponent := b.exponent - shift, narrowBelow := s = 2 ^ (width - 1) }

/-- Numerator of `n * 2 ^ e * 10 ^ k` over `denominator e k`. -/
def numerator (n : Nat) (e k : Int) : Nat := n * 2 ^ e.toNat * 10 ^ k.toNat

def denominator (e k : Int) : Nat := 2 ^ (-e).toNat * 10 ^ (-k).toNat

/-- An exponent with `significand * 2 ^ exponent < 10 ^ ceiling`, at most two too large. -/
def Binary.ceiling (b : Binary) : Int :=
  let bits := b.exponent + (b.significand.log2 + 1)
  bits * 30103 / 100000 + 1

end StructuredLog.Decimal

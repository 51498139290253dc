import StructuredLog.Calendar.Moment
import StructuredLog.Decimal.Binary

/-!
Scalars: the values without parts. Integers carry the width they were captured with; floating-point
numbers are held as their bits.
-/

namespace StructuredLog

inductive IntKind where
  | i64
  | u64
  | i128
  | u128
  deriving DecidableEq, Repr

namespace IntKind

-- Powers are the core library's, also where others are in scope.
attribute [local instance (2000)] instPowNat

def bits : IntKind → Nat
  | i64 => 64
  | u64 => 64
  | i128 => 128
  | u128 => 128

def isSigned : IntKind → Bool
  | i64 => true
  | i128 => true
  | u64 => false
  | u128 => false

def least (k : IntKind) : Int := if k.isSigned then -2 ^ (k.bits - 1) else 0

def greatest (k : IntKind) : Int := if k.isSigned then 2 ^ (k.bits - 1) - 1 else 2 ^ k.bits - 1

end IntKind

structure Integer where
  kind : IntKind
  value : Int
  inRange : kind.least ≤ value ∧ value ≤ kind.greatest
  deriving DecidableEq

/-- The integer of a kind, if the kind has it. -/
def Integer.ofInt? (kind : IntKind) (n : Int) : Option Integer :=
  if h : kind.least ≤ n ∧ n ≤ kind.greatest then some ⟨kind, n, h⟩ else none

inductive Scalar where
  | null
  | bool (b : Bool)
  | char (c : Char)
  | integer (n : Integer)
  | f32 (bits : UInt32)
  | f64 (bits : UInt64)
  | string (s : String)
  | zoned (t : ZonedDateTime)
  | clock (t : LocalDateTime)
  | date (d : Date)
  | time (t : Time)
  | duration (d : Duration)
  /-- A variant of an enumeration, by name. -/
  | variant (name : String)
  /-- The text of a value that has no better form. -/
  | other (text : String)
  deriving DecidableEq

namespace Scalar

def isNull : Scalar → Bool
  | null => true
  | _ => false

def isNumber : Scalar → Bool
  | integer _ | f32 _ | f64 _ => true
  | _ => false

def string? : Scalar → Option String
  | string s => some s
  | _ => none

end Scalar

namespace Decimal

/-- Equality of numbers: not-a-number equals nothing, and the two zeros are equal. -/
def Decoded.equals : Decoded → Decoded → Bool
  | .finite a, .finite b => a = b ∨ a.significand = 0 ∧ b.significand = 0
  | .infinite a, .infinite b => a = b
  | _, _ => false

end Decimal

/-- Equality of keys. Kinds are distinct, numbers are compared as numbers, and zoned times by the
moment that they name. -/
def Scalar.equals : Scalar → Scalar → Bool
  | .f32 a, .f32 b => (Decimal.Decoded.ofBits32 a).equals (.ofBits32 b)
  | .f64 a, .f64 b => (Decimal.Decoded.ofBits64 a).equals (.ofBits64 b)
  | .zoned a, .zoned b => a.instant = b.instant
  | a, b => a = b

end StructuredLog

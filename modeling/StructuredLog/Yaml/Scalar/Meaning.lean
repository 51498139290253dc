import StructuredLog.Text.Digits
import StructuredLog.Text.Hex

/-!
What a plain scalar stands for: null, a truth value, a number, or else a text.
-/

namespace StructuredLog.Yaml

namespace Plain

-- Powers are the core library's, also where others are in scope.
attribute [local instance (2000)] instPowNat

def isNullWord (s : String) : Bool := ["~", "null", "Null", "NULL"].contains s

def isNull (s : String) : Bool := s.isEmpty || isNullWord s

def flag? (s : String) : Option Bool :=
  if ["true", "True", "TRUE"].contains s then some true
  else if ["false", "False", "FALSE"].contains s then some false
  else none

def digitsFrom? (base : Nat) (cs : List Char) : Option Nat :=
  if cs.isEmpty then none
  else cs.foldl (fun n c => do
    let d ← Text.hexDigit? c
    guard (d < base)
    return base * (← n) + d) (some 0)

/-- A number without a sign, in one of four bases. -/
def magnitude? : List Char → Option Nat
  | '0' :: 'x' :: cs => digitsFrom? 16 cs
  | '0' :: 'o' :: cs => digitsFrom? 8 cs
  | '0' :: 'b' :: cs => digitsFrom? 2 cs
  | cs => Text.nat? cs

/-- A number with zeros in front is a text. -/
def isZeroPadded (s : String) : Bool :=
  match s.toList with
  | '-' :: '0' :: c :: cs | '+' :: '0' :: c :: cs | '0' :: c :: cs => (c :: cs).all Char.isDigit
  | _ => false

def natural? (s : String) : Option Nat :=
  if isZeroPadded s then none
  else match s.toList with
    | '+' :: cs => magnitude? cs
    | cs => magnitude? cs

def isInteger (s : String) : Bool :=
  match s.toList with
  | '-' :: cs =>
    !isZeroPadded s && match magnitude? cs with
      | some n => n ≤ 1 <<< 127
      | none => false
  | _ => match natural? s with
    | some n => n < 1 <<< 128
    | none => false

/-- Numbers from here on round to no finite one of 64 bits. -/
def overflow : Nat := (1 <<< 54 - 1) <<< 970

/-- Whether a decimal of some digits is finite once it is rounded. -/
def isFinite (digits : List Char) (exponent : Int) : Bool :=
  let digits := digits.dropWhile (· = '0')
  let scale : Int := digits.length + exponent
  if digits.isEmpty || scale < 309 then true
  else if scale > 309 then false
  else
    let m := Text.valueFrom 0 digits
    if exponent ≥ 0 then m * 10 ^ exponent.toNat < overflow
    else m < overflow * 10 ^ (-exponent).toNat

def exponent? : List Char → Option Int
  | [] => some 0
  | e :: cs =>
    if e = 'e' ∨ e = 'E' then
      match cs with
      | '-' :: ds => (Text.nat? ds).map fun n => -(n : Int)
      | '+' :: ds => (Text.nat? ds).map Int.ofNat
      | ds => (Text.nat? ds).map Int.ofNat
    else none

def isFiniteFloat (cs : List Char) : Bool :=
  let whole := cs.takeWhile Char.isDigit
  let rest := cs.dropWhile Char.isDigit
  let (places, rest) := match rest with
    | '.' :: r => (r.takeWhile Char.isDigit, r.dropWhile Char.isDigit)
    | r => ([], r)
  match exponent? rest with
  | some e =>
    !(whole ++ places).isEmpty && isFinite (whole ++ places) (e - (places.length : Int))
  | none => false

def isFloat (s : String) : Bool :=
  [".inf", ".Inf", ".INF", "+.inf", "+.Inf", "+.INF", "-.inf", "-.Inf", "-.INF", ".nan", ".NaN",
    ".NAN"].contains s ||
  match s.toList with
  | '+' :: cs | '-' :: cs => isFiniteFloat cs
  | cs => isFiniteFloat cs

/-- Whether a text without quotes would be read as something else. -/
def isAmbiguous (s : String) : Bool :=
  isNull s || (flag? s).isSome || isInteger s || isZeroPadded s || isFloat s

end Plain

end StructuredLog.Yaml

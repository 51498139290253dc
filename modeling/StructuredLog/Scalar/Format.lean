import StructuredLog.Calendar.Pattern
import StructuredLog.Calendar.Writer
import StructuredLog.Decimal.Fixed
import StructuredLog.Scalar.Basic
import StructuredLog.Text.Hex

/-!
The plain text of scalars and their formats. Numbers know the standard formats `D`, `X`, `F`, `N`,
`E`, `R` and `G` with up to two digits of precision; dates and times know patterns. A format that a
value does not know leaves it with its default text.
-/

namespace StructuredLog

/-- A letter with an optional precision of one or two digits. -/
structure StandardFormat where
  letter : Char
  precision : Option Nat
  deriving DecidableEq, Repr

def StandardFormat.ofString? (s : String) : Option StandardFormat :=
  match s.toList with
  | [] => none
  | c :: ds =>
    if !c.isAlpha then none
    else if ds.isEmpty then some ⟨c, none⟩
    else if 2 < ds.length then none
    else (Text.nat? ds).map fun n => ⟨c, some n⟩

/-- A comma before every group of three digits that is counted from the right. -/
def groupThousands : List Char → List Char
  | [] => []
  | d :: ds =>
    if ds ≠ [] ∧ ds.length % 3 = 0 then d :: ',' :: groupThousands ds else d :: groupThousands ds

/-- A point and the digits after it, if there are any. -/
def withPlaces (whole places : List Char) : String :=
  String.ofList (if places.isEmpty then whole else whole ++ '.' :: places)

namespace Integer

-- Powers are the core library's, also where others are in scope.
attribute [local instance (2000)] instPowNat

def sign (n : Integer) : String := if n.value < 0 then "-" else ""

def text (n : Integer) : String := n.sign ++ toString n.value.natAbs

/-- Hexadecimal digits of the value modulo the size of its kind. -/
def hexDigits (n : Integer) : List Char :=
  Nat.toDigits 16 (n.value % 2 ^ n.kind.bits).toNat

def format? (n : Integer) (f : StandardFormat) : Option String :=
  let zeros := List.replicate (f.precision.getD 2) '0'
  let digits := (toString n.value.natAbs).toList
  if f.letter = 'D' ∨ f.letter = 'd' then
    some (n.sign ++ Text.padded (f.precision.getD 0) n.value.natAbs)
  else if f.letter = 'X' then
    some (Text.zeroFill (f.precision.getD 0) (String.ofList (n.hexDigits.map Char.toUpper)))
  else if f.letter = 'x' then
    some (Text.zeroFill (f.precision.getD 0) (String.ofList n.hexDigits))
  else if f.letter = 'F' ∨ f.letter = 'f' then some (n.sign ++ withPlaces digits zeros)
  else if f.letter = 'N' ∨ f.letter = 'n' then
    some (n.sign ++ withPlaces (groupThousands digits) zeros)
  else none

end Integer

namespace Decimal

def Binary.sign (b : Binary) : String := if b.negative then "-" else ""

/-- One digit, the places, and an exponent with its sign and at least three digits. -/
def Binary.scientificText (b : Binary) (mark : Char) (places : Nat) : String :=
  let (digits, exponent) := b.scientific places
  let ds := (Text.padded (places + 1) digits).toList
  b.sign ++ withPlaces (ds.take 1) (ds.drop 1) ++
    String.ofList [mark, if exponent < 0 then '-' else '+'] ++ Text.padded 3 exponent.natAbs

/-- A zero with a sign keeps it in `F` and loses it in `N`. -/
def Binary.format? (b : Binary) (f : StandardFormat) : Option String :=
  let (whole, places) := b.fixed (f.precision.getD 2)
  if f.letter = 'F' ∨ f.letter = 'f' then some (b.sign ++ withPlaces whole places)
  else if f.letter = 'N' ∨ f.letter = 'n' then
    some ((if b.significand = 0 then "" else b.sign) ++ withPlaces (groupThousands whole) places)
  else if f.letter = 'E' ∨ f.letter = 'e' then
    some (b.scientificText f.letter (f.precision.getD 6))
  else if f.letter = 'R' ∨ f.letter = 'r' ∨ f.letter = 'G' ∨ f.letter = 'g' then some b.text
  else none

def Decoded.text : Decoded → String
  | .finite b => b.text
  | .infinite false => "Infinity"
  | .infinite true => "-Infinity"
  | .nan => "NaN"

def Decoded.format? : Decoded → StandardFormat → Option String
  | .finite b, f => b.format? f
  | _, _ => none

/-- The same number in double precision. -/
def Decoded.toDouble : Decoded → Decoded
  | .finite b => .finite (b.widen 53)
  | d => d

end Decimal

namespace Scalar

/-- The text without format and without quotes. -/
def text : Scalar → String
  | null => "null"
  | bool b => if b then "true" else "false"
  | char c => String.singleton c
  | integer n => n.text
  | f32 bits => (Decimal.Decoded.ofBits32 bits).text
  | f64 bits => (Decimal.Decoded.ofBits64 bits).text
  | string s => s
  | zoned t => Calendar.zonedText t
  | clock t => Calendar.localText t
  | date d => Calendar.dateText d
  | time t => Calendar.timeText t
  | duration d => d.text
  | variant name => name
  | other s => s

/-- The text that a format gives, if the scalar knows the format. -/
def format? (s : Scalar) (format : String) : Option String :=
  match s with
  | integer n => do n.format? (← StandardFormat.ofString? format)
  | f32 bits => do
    (Decimal.Decoded.ofBits32 bits).toDouble.format? (← StandardFormat.ofString? format)
  | f64 bits => do (Decimal.Decoded.ofBits64 bits).format? (← StandardFormat.ofString? format)
  | zoned t => Calendar.text? (Calendar.pattern format) ⟨t.clock.date, t.clock.time, t.offset⟩
  | clock t => Calendar.text? (Calendar.pattern format) ⟨t.date, t.time, none⟩
  | date d => Calendar.text? (Calendar.pattern format) ⟨d, none, none⟩
  | time t => Calendar.text? (Calendar.pattern format) ⟨none, t, none⟩
  | _ => none

def formatted (s : Scalar) (format : Option String) : String :=
  ((format.bind s.format?).getD s.text)

end Scalar

/-- An outside source of texts: it is asked with the format in force, and may decline. -/
def Provider : Type := Option String → Scalar → Option String

def Provider.none : Provider := fun _ _ => Option.none

/-- Quotes are escaped; nothing else is, so that backslashes stay single. -/
def escapeQuotes (cs : List Char) : List Char :=
  cs.flatMap fun c => if c = '"' then ['\\', '"'] else [c]

def quotedPlain (s : String) : String := String.ofList ('"' :: (escapeQuotes s.toList ++ ['"']))

/-- The text of a scalar in a plain message. Strings are quoted except under the format `l`; of
other scalars than null the provider is asked first. -/
def Scalar.render (s : Scalar) (format : Option String) (provider : Provider) : String :=
  match s with
  | .null => "null"
  | .string t => if format = some "l" then t else quotedPlain t
  | s => (provider format s).getD (s.formatted format)

end StructuredLog

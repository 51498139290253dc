import StructuredLog.Text.Digits
import StructuredLog.Text.Hex
import StructuredLog.Text.Split
import StructuredLog.Theme.Style

/-!
Dotted style strings such as `white.on_red.bold`. Every part sets a colour, a brightness or an
attribute of a look, and a look is written as one escape sequence for each colour and attribute. A
theme's style may be given so, or as a raw escape sequence, or be empty.
-/

namespace StructuredLog.Dotted

inductive Colour where
  | named (n : Nat)
  | indexed (n : Nat)
  | rgb (r g b : Nat)
  deriving DecidableEq, Repr

inductive Part where
  | foreground (c : Colour)
  | background (c : Colour)
  | brightForeground
  | brightBackground
  | attribute (code : Nat)
  deriving DecidableEq, Repr

/-- What the parts of a dotted string add up to: of two colours the later one holds. -/
structure Look where
  foreground : Option Colour := none
  background : Option Colour := none
  brightForeground : Bool := false
  brightBackground : Bool := false
  attributes : List Nat := []
  deriving DecidableEq, Repr

/-- Named colours in the order of their codes. -/
def colourNames : List String :=
  ["black", "red", "green", "yellow", "blue", "magenta", "cyan", "white"]

def attributeCodes : List (String × Nat) :=
  [("bold", 1), ("dim", 2), ("underlined", 4), ("blink", 5), ("blink_fast", 6), ("reverse", 7),
   ("hidden", 8), ("strikethrough", 9)]

/-- A number of eight bits; a plus sign and leading zeros are allowed. -/
def byte? (cs : List Char) : Option Nat :=
  (Text.nat? (match cs with | '+' :: ds => ds | ds => ds)).filter (· < 256)

/-- Two characters of a colour code; the first may be a plus sign. -/
def hexPair? (high low : Char) : Option Nat := do
  let low ← Text.hexDigit? low
  if high = '+' then return low
  return 16 * (← Text.hexDigit? high) + low

def rgb? : List Char → Option Colour
  | [r₁, r₀, g₁, g₀, b₁, b₀] =>
    return .rgb (← hexPair? r₁ r₀) (← hexPair? g₁ g₀) (← hexPair? b₁ b₀)
  | _ => none

def colour? (cs : List Char) : Option Colour :=
  match colourNames.idxOf? (String.ofList cs), cs with
  | some n, _ => some (.named n)
  | none, '#' :: code => rgb? code
  | none, digits => (byte? digits).map .indexed

def Part.ofName? (cs : List Char) : Option Part :=
  match attributeCodes.lookup (String.ofList cs), cs with
  | some code, _ => some (.attribute code)
  | none, ['b', 'r', 'i', 'g', 'h', 't'] => some .brightForeground
  | none, ['o', 'n', '_', 'b', 'r', 'i', 'g', 'h', 't'] => some .brightBackground
  | none, 'o' :: 'n' :: '_' :: c => (colour? c).map .background
  | none, c => (colour? c).map .foreground

def Look.add (l : Look) : Part → Look
  | .foreground c => { l with foreground := some c }
  | .background c => { l with background := some c }
  | .brightForeground => { l with brightForeground := true }
  | .brightBackground => { l with brightBackground := true }
  | .attribute code => { l with attributes := code :: l.attributes }

def sequence (codes : List Nat) : String :=
  "\x1b[" ++ ";".intercalate (codes.map toString) ++ "m"

/-- `base` is 30 for the foreground and 40 for the background. Brightness changes named colours. -/
def Colour.sequence (base : Nat) (bright : Bool) : Colour → String
  | .named n => if bright then Dotted.sequence [base + 8, 5, n + 8] else Dotted.sequence [base + n]
  | .indexed n => Dotted.sequence [base + 8, 5, n]
  | .rgb r g b => Dotted.sequence [base + 8, 2, r, g, b]

/-- Foreground, background, then each attribute once, by ascending code. -/
def Look.escape (l : Look) : String :=
  (l.foreground.map (Colour.sequence 30 l.brightForeground)).getD "" ++
  (l.background.map (Colour.sequence 40 l.brightBackground)).getD "" ++
  String.join ((attributeCodes.filter fun (_, code) => l.attributes.contains code).map
    fun (_, code) => sequence [code])

/-- The look of a list of parts; parts of unknown name are passed over. -/
def look (parts : List (List Char)) : Look :=
  (parts.filterMap Part.ofName?).foldl Look.add {}

def parts (s : String) : List (List Char) := Text.split '.' s.toList

end StructuredLog.Dotted

namespace StructuredLog

/-- A part of a dotted string that means nothing by itself. -/
structure InvalidStyle where
  style : String
  part : String
  deriving DecidableEq, Repr

def InvalidStyle.message (e : InvalidStyle) : String :=
  "invalid style for '" ++ e.style ++ "': unknown attribute `" ++ e.part ++ "`"

/-- The escape sequence for a dotted string, whatever its parts are. -/
def Dotted.escape (s : String) : String := (look (parts s)).escape

/-- A style as a theme configuration gives it: a raw sequence or the empty text as they are, else a
dotted string of which every part alone gives a sequence. -/
def Dotted.parse (s : String) : Except InvalidStyle String :=
  if s.isEmpty || s.toList.head? == some '\x1b' then .ok s
  else match (parts s).find? fun part => (look [part]).escape.isEmpty with
    | some part => .error ⟨s, String.ofList part⟩
    | none => .ok (escape s)

end StructuredLog

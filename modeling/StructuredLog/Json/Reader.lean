import StructuredLog.Json.Document
import StructuredLog.Text.Digits
import StructuredLog.Text.Hex

/-!
Reading a JSON text. The whole text must be one document with blanks around its tokens; anything
else is refused, a lone surrogate and a raw control character in a string included.
-/

namespace StructuredLog.Json

def isSpace (c : Char) : Bool := c == ' ' || c == '\n' || c == '\r' || c == '\t'

def skip (cs : List Char) : List Char := cs.dropWhile isSpace

/-- A code unit of four hexadecimal digits. -/
def codeUnit? (a b c d : Char) : Option Nat :=
  return 4096 * (← Text.hexDigit? a) + 256 * (← Text.hexDigit? b) + 16 * (← Text.hexDigit? c) +
    (← Text.hexDigit? d)

def unescape? : Char → Option Char
  | '"' => some '"'
  | '\\' => some '\\'
  | '/' => some '/'
  | 'b' => some '\x08'
  | 'f' => some '\x0c'
  | 'n' => some '\n'
  | 'r' => some '\r'
  | 't' => some '\t'
  | _ => none

def cons? (c : Char) (rest : Option (List Char × List Char)) : Option (List Char × List Char) :=
  rest.map fun (s, r) => (c :: s, r)

/-- The characters of a string whose opening quote is read, and what follows its closing quote. -/
def string? : List Char → Option (List Char × List Char)
  | [] => none
  | '"' :: rest => some ([], rest)
  | '\\' :: 'u' :: a :: b :: c :: d :: rest => do
    let unit ← codeUnit? a b c d
    if 0xD800 ≤ unit ∧ unit < 0xDC00 then
      match rest with
      | '\\' :: 'u' :: a :: b :: c :: d :: rest =>
        let low ← codeUnit? a b c d
        if 0xDC00 ≤ low ∧ low < 0xE000 then
          cons? (Char.ofNat (0x10000 + (unit - 0xD800) * 0x400 + (low - 0xDC00))) (string? rest)
        else none
      | _ => none
    else if 0xDC00 ≤ unit ∧ unit < 0xE000 then none
    else cons? (Char.ofNat unit) (string? rest)
  | '\\' :: c :: rest => do cons? (← unescape? c) (string? rest)
  | c :: rest => if c.toNat < 0x20 || c == '\\' then none else cons? c (string? rest)

/-- Digits at the start, and what follows them. -/
def digits (cs : List Char) : List Char × List Char :=
  (cs.takeWhile Char.isDigit, cs.dropWhile Char.isDigit)

/-- A fraction after its point. -/
def fraction? : List Char → Option (List Char × List Char)
  | '.' :: rest => if (digits rest).1.isEmpty then none else some (digits rest)
  | cs => some ([], cs)

/-- An exponent with an optional sign. -/
def exponent? (cs : List Char) : Option (Option Int × List Char) :=
  match cs with
  | c :: rest =>
    if c = 'e' ∨ c = 'E' then
      let (negative, rest) := match rest with
        | '-' :: r => (true, r)
        | '+' :: r => (false, r)
        | r => (false, r)
      (Text.nat? (digits rest).1).map fun n =>
        (some (if negative then -(n : Int) else n), (digits rest).2)
    else some (none, cs)
  | [] => some (none, [])

def number? (cs : List Char) : Option (Number × List Char) := do
  let (negative, cs) := match cs with
    | '-' :: r => (true, r)
    | r => (false, r)
  let whole := (digits cs).1
  let n ← Text.nat? whole
  guard (whole.head? ≠ some '0' ∨ whole.length = 1)
  let (places, rest) ← fraction? (digits cs).2
  let (exponent, rest) ← exponent? rest
  if places.isEmpty ∧ exponent.isNone ∧ ¬(negative ∧ n = 0) then
    return (.integer (if negative then -(n : Int) else n), rest)
  return (.decimal negative (Text.valueFrom n places) (exponent.getD 0 - places.length), rest)

mutual

/-- One value after blanks, and what follows it. -/
def value? : Nat → List Char → Option (Document × List Char)
  | 0, _ => none
  | fuel + 1, cs =>
    match skip cs with
    | 'n' :: 'u' :: 'l' :: 'l' :: rest => some (.null, rest)
    | 't' :: 'r' :: 'u' :: 'e' :: rest => some (.bool true, rest)
    | 'f' :: 'a' :: 'l' :: 's' :: 'e' :: rest => some (.bool false, rest)
    | '"' :: rest => (string? rest).map fun (s, rest) => (.string (String.ofList s), rest)
    | '[' :: rest =>
      match skip rest with
      | ']' :: rest => some (.array [], rest)
      | _ => (items? fuel rest).map fun (items, rest) => (.array items, rest)
    | '{' :: rest =>
      match skip rest with
      | '}' :: rest => some (.object [], rest)
      | _ => (members? fuel rest).map fun (members, rest) => (.object members, rest)
    | cs => (number? cs).map fun (n, rest) => (.number n, rest)

/-- Values between commas up to the bracket that closes an array. -/
def items? : Nat → List Char → Option (List Document × List Char)
  | 0, _ => none
  | fuel + 1, cs => do
    let (item, rest) ← value? fuel cs
    match skip rest with
    | ',' :: rest => (items? fuel rest).map fun (items, rest) => (item :: items, rest)
    | ']' :: rest => some ([item], rest)
    | _ => none

/-- Members between commas up to the brace that closes an object. -/
def members? : Nat → List Char → Option (List (String × Document) × List Char)
  | 0, _ => none
  | fuel + 1, cs =>
    match skip cs with
    | '"' :: rest => do
      let (name, rest) ← string? rest
      match skip rest with
      | ':' :: rest =>
        let (item, rest) ← value? fuel rest
        let member := (String.ofList name, item)
        match skip rest with
        | ',' :: rest => (members? fuel rest).map fun (ms, rest) => (member :: ms, rest)
        | '}' :: rest => some ([member], rest)
        | _ => none
      | _ => none
    | _ => none

end

/-- The document that a whole text denotes. A value needs at most two steps for each character. -/
def Document.parse? (s : String) : Option Document :=
  match value? (2 * s.toList.length + 1) s.toList with
  | some (d, rest) => if (skip rest).isEmpty then some d else none
  | none => none

end StructuredLog.Json

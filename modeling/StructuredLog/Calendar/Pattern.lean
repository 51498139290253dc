/-!
Custom date patterns such as `yyyy-MM-dd HH:mm:ss.fff`. A run of one letter stands for a directive
that its length chooses; quotes and the backslash make literals. A pattern with a percent sign
outside these is taken as directives already.
-/

namespace StructuredLog.Calendar

/-- The directive of a run of `n` letters `c`. -/
def runDirective? (c : Char) (n : Nat) : Option (List Char) :=
  match c with
  | 'y' => some (if 3 ≤ n then ['%', 'Y'] else ['%', 'y'])
  | 'M' => some (if n = 1 then ['%', '-', 'm'] else if n = 2 then ['%', 'm']
      else if n = 3 then ['%', 'b'] else ['%', 'B'])
  | 'd' => some (if n = 1 then ['%', '-', 'd'] else if n = 2 then ['%', 'd']
      else if n = 3 then ['%', 'a'] else ['%', 'A'])
  | 'H' => some (if n = 1 then ['%', '-', 'H'] else ['%', 'H'])
  | 'h' => some (if n = 1 then ['%', '-', 'I'] else ['%', 'I'])
  | 'm' => some (if n = 1 then ['%', '-', 'M'] else ['%', 'M'])
  | 's' => some (if n = 1 then ['%', '-', 'S'] else ['%', 'S'])
  | 'f' => some (if n ≤ 3 then ['%', '3', 'f'] else if n ≤ 6 then ['%', '6', 'f']
      else ['%', '9', 'f'])
  | 'F' => some (if n ≤ 3 then ['%', '3', 'f'] else if n ≤ 6 then ['%', '6', 'f']
      else ['%', '9', 'f'])
  | 't' => some ['%', 'p']
  | 'z' => some ['%', ':', 'z']
  | 'K' => some ['%', ':', 'z']
  | _ => none

/-- A literal character among directives. -/
def literalText (c : Char) : List Char := if c = '%' then ['%', '%'] else [c]

def isQuote (c : Char) : Bool := c == '\x27' || c == '"'

/-- The directives of a custom pattern. An unclosed quote runs to the end. -/
def compile (cs : List Char) : List Char :=
  match cs with
  | [] => []
  | c :: rest =>
    if isQuote c then
      (rest.takeWhile (· != c)).flatMap literalText ++ compile ((rest.dropWhile (· != c)).drop 1)
    else if c = '\\' then
      match rest with
      | [] => []
      | d :: rest => literalText d ++ compile rest
    else
      match runDirective? c ((rest.takeWhile (· == c)).length + 1) with
      | some directive => directive ++ compile (rest.dropWhile (· == c))
      | none => literalText c ++ compile rest
termination_by cs.length
decreasing_by
  · have := (List.dropWhile_sublist (l := rest) (· != c)).length_le
    simp only [List.length_drop, List.length_cons]
    omega
  · simp +arith
  · have := (List.dropWhile_sublist (l := rest) (· == c)).length_le
    simp only [List.length_cons]
    omega
  · simp

/-- A percent sign outside quotes and not behind a backslash; `quote` is the quote that is open. -/
def hasBarePercent (quote : Option Char) : List Char → Bool
  | [] => false
  | c :: rest =>
    match quote with
    | some q => hasBarePercent (if c = q then none else quote) rest
    | none =>
      if isQuote c then hasBarePercent (some c) rest
      else if c = '\\' then
        match rest with
        | [] => false
        | _ :: rest => hasBarePercent none rest
      else c == '%' || hasBarePercent none rest

/-- The directive pattern that a format stands for. -/
def pattern (format : String) : String :=
  if hasBarePercent none format.toList then format else String.ofList (compile format.toList)

end StructuredLog.Calendar

import StructuredLog.Yaml.Scalar.Basic

/-!
Scalars without quotes. They end before a colon or a hash sign that stands apart, in a flow
collection before its indicators, and elsewhere before a line that starts further left.
-/

namespace StructuredLog.Yaml

/-- A run of characters without gaps. In a flow collection a colon may not touch what follows. -/
def plainRun? (flow : Bool) : List Char → Option (List Char)
  | [] => some []
  | c :: cs =>
    if isGap c || c = ':' && endsWord cs || flow && flowIndicators.contains c then some []
    else if flow && c = ':' && cs.head?.any fun d => d = '?' || flowIndicators.contains d then none
    else (plainRun? flow cs).map (c :: ·)

/-- Whether a tab stands left of a column, in a gap that starts in another one. -/
def hasTabBefore (limit : Nat) : (column : Nat) → List Char → Bool
  | _, [] => false
  | column, c :: cs =>
    if isBreak c then hasTabBefore limit 0 cs
    else c = '\t' && column < limit || hasTabBefore limit (column + 1) cs

/-- The rest of a scalar after a gap, which counts only if more of it follows; whether a line ends
in the last gap, and what follows that. Lines of it are indented by the limit at least. -/
def plainFrom (flow : Bool) (limit : Nat) :
    Nat → (gap : List Char) → Cursor → Option (List Char × Bool × Cursor)
  | 0, _, _ => none
  | fuel + 1, gap, c =>
    let stop := some ([], gap.any isBreak, c)
    if c.atDocumentMark || c.rest.head? = some '#' then stop
    else
      match plainRun? flow c.rest with
      | none => none
      | some [] => stop
      | some run =>
        let c := c.skip run.length
        let next := c.run isGap
        let after := c.past isGap
        let text := gapText gap ++ run
        if next.isEmpty then some (text, false, c)
        else if hasTabBefore limit 0 (next.dropWhile fun x => !isBreak x) then none
        else if !flow && after.column < limit then some (text, next.any isBreak, after)
        else prepend text (plainFrom flow limit fuel next after)

/-- A scalar that starts here, whether a line ends after it, and what follows. -/
def plain? (flow : Bool) (limit : Nat) (c : Cursor) : Option (Scalar × Bool × Cursor) := do
  let (s, broken, c) ← plainFrom flow limit (c.rest.length + 1) [] c
  return (⟨String.ofList s, .plain⟩, broken, c)

end StructuredLog.Yaml

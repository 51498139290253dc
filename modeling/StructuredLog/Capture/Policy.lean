import StructuredLog.Capture.Host
import StructuredLog.Capture.Outcome
import StructuredLog.Template.Token
import StructuredLog.Value.Basic

/-!
Policies: rules of a host program that say how its values are destructured. A policy answers with a
plan, which may ask for the capture of other values before it ends. It has no other way to capture
one, so the depth limit holds for it too.
-/

namespace StructuredLog.Capture

inductive Plan (α : Type) where
  /-- Leaves the value to the next policy. -/
  | pass
  | done (v : Value)
  | fail (e : CaptureError)
  /-- Tells of something on its own account, and goes on. -/
  | report (text : String) (next : Plan α)
  /-- Captures another value one level deeper, and goes on with what came of it. -/
  | ask (a : α) (hint : Hint) (next : Except CaptureError Value → Plan α)

/-- Carries a plan out, with a way to capture what it asks for. -/
def Plan.run (capture : α → Hint → Outcome Value) : Plan α → Outcome (Option Value)
  | pass => .pure none
  | done v => .pure (some v)
  | fail e => .fail e
  | report text next => (Outcome.emit (.note text)).bind fun _ => next.run capture
  | ask a hint next =>
    let answer := capture a hint
    let rest := (next answer.result).run capture
    ⟨answer.log ++ rest.log, answer.calls ++ rest.calls, rest.result⟩

/-- A plan ends with what a capture gives. -/
def Plan.ofResult : Except CaptureError Value → Plan α
  | .ok v => .done v
  | .error e => .fail e

/-- The value is captured instead of the one at hand. -/
def Plan.replace (a : α) (hint : Hint) : Plan α := .ask a hint .ofResult

/-- A plan for each depth and value; the depth of the outermost value is one. -/
abbrev Policy (α : Type) := Nat → α → Plan α

namespace Policy

/-- Captures what a function gives instead of the values that it takes. -/
def transform (f : α → Option α) : Policy α := fun _ a =>
  match f a with
  | some b => .replace b .destructure
  | none => .pass

/-- A plan for the values of one type, by full name. -/
def ofType (h : Host α) (fullName : String) (plan : Nat → Plan α) : Policy α := fun depth a =>
  if (h.look a).type.fullName = fullName then plan depth else .pass

end Policy

end StructuredLog.Capture

import StructuredLog.Proofs.Capture.Dialogue
import StructuredLog.Proofs.Capture.Parts

/-!
Captures end. Values may be cyclic and policies may give back what they were given, so that nothing
about a value gets smaller from a call to the calls inside it. What gets smaller is the distance of
the depth from the limit: a call is made only below the limit, and its parts lie one level deeper.
Here calls are counted out in fuel and their depths are recorded, and the limit is only what each
call is checked against; as much fuel as there are levels is always enough.
-/

namespace StructuredLog.Capture

/-- An outcome, with the depth of each call that was made for it. -/
structure Run (β : Type) where
  outcome : Outcome β
  depths : List Nat

namespace Dialogue

/-- Holds a dialogue whose answers come from calls that may run out of fuel. -/
def run? (create : Request α → Option (Run Value)) : Dialogue α β → Option (Run β)
  | done result => some ⟨⟨[], [], result⟩, []⟩
  | tell d next => (next.run? create).map fun rest =>
    ⟨⟨d :: rest.outcome.log, rest.outcome.calls, rest.outcome.result⟩, rest.depths⟩
  | call accessor next => (next.run? create).map fun rest =>
    ⟨⟨rest.outcome.log, accessor :: rest.outcome.calls, rest.outcome.result⟩, rest.depths⟩
  | ask r next => (create r).bind fun answer =>
    ((next answer.outcome.result).run? create).map fun rest =>
      ⟨⟨answer.outcome.log ++ rest.outcome.log, answer.outcome.calls ++ rest.outcome.calls,
        rest.outcome.result⟩, answer.depths ++ rest.depths⟩

/-- Where each call is answered, the dialogue comes to its end, and no call but theirs is made. -/
theorem exists_run {nested : Nested α} {bound : Nat} {answers : Request α → Run Value}
    (agree : ∀ r, (answers r).outcome = nested.answer r)
    (low : ∀ r, ∀ d ∈ (answers r).depths, d ≤ bound) (dialogue : Dialogue α β) :
    ∃ run, run.outcome = dialogue.hold nested ∧ (∀ d ∈ run.depths, d ≤ bound) ∧
      dialogue.run? (fun r => some (answers r)) = some run := by
  induction dialogue with
  | done result => exact ⟨⟨⟨[], [], result⟩, []⟩, rfl, List.forall_mem_nil _, rfl⟩
  | tell d next ih | call accessor next ih =>
    obtain ⟨rest, outcome, depths, ends⟩ := ih
    refine ⟨_, ?_, ?_, by rw [run?, ends, Option.map_some]⟩
    · rw [outcome, hold]
    · exact depths
  | ask r next ih =>
    obtain ⟨rest, outcome, depths, ends⟩ := ih (answers r).outcome.result
    refine ⟨⟨⟨(answers r).outcome.log ++ rest.outcome.log,
      (answers r).outcome.calls ++ rest.outcome.calls, rest.outcome.result⟩,
      (answers r).depths ++ rest.depths⟩, ?_, ?_, ?_⟩
    · rw [outcome, agree, hold]
    · exact List.forall_mem_append.mpr ⟨low r, depths⟩
    · rw [run?, Option.bind_some, ends, Option.map_some]

end Dialogue

/-- What is answered where the limit is reached: null, without a call. -/
def Run.cut : Run Value := ⟨⟨[.depthReached], [], .ok .null⟩, []⟩

namespace Converter

section Calls

variable (c : Converter α) (h : Host α)

/-- A call at some depth, with fuel for the calls inside each other. The limit decides whether there
is a call for a part. -/
def create? : (fuel depth : Nat) → Request α → Option (Run Value)
  | 0, _, _ => none
  | _ + 1, depth, .text s => some ⟨.pure (.scalar (.string (c.truncate s))), [depth]⟩
  | fuel + 1, depth, .value a hint =>
    ((Scripted.step depth c h a hint).dialogue.run? fun r =>
      if depth < c.limits.depth then create? fuel (depth + 1) r else some .cut).map fun run =>
        ⟨run.outcome, depth :: run.depths⟩

/-- One call, given the answers to the calls that it makes. -/
theorem exists_run_step (nested : Nested α) {bound : Nat} (within : nested.depth ≤ bound)
    (answers : Request α → Run Value) (agree : ∀ r, (answers r).outcome = nested.answer r)
    (low : ∀ r, ∀ d ∈ (answers r).depths, d ≤ bound) (a : α) (hint : Hint) :
    ∃ run, run.outcome = c.step h nested a hint ∧ (∀ d ∈ run.depths, d ≤ bound) ∧
      ∀ fuel, (∀ r, (if nested.depth < c.limits.depth then c.create? h fuel (nested.depth + 1) r
          else some .cut) = some (answers r)) →
        c.create? h (fuel + 1) nested.depth (.value a hint) = some run := by
  let scripted := Scripted.step nested.depth c h a hint
  obtain ⟨run, outcome, depths, ends⟩ := Dialogue.exists_run agree low scripted.dialogue
  refine ⟨⟨run.outcome, nested.depth :: run.depths⟩, ?_, ?_, ?_⟩
  · exact outcome.trans (scripted.follows nested rfl)
  · exact List.forall_mem_cons.mpr ⟨within, depths⟩
  · intro fuel answered
    rw [create?, funext answered, ends, Option.map_some]

/-- A text is kept without a further call. -/
theorem exists_run_text {depth bound : Nat} (within : depth ≤ bound) (s : String) :
    ∃ run, run.outcome = .pure (.scalar (.string (c.truncate s))) ∧
      (∀ d ∈ run.depths, d ≤ bound) ∧
      ∀ fuel, c.create? h (fuel + 1) depth (.text s) = some run :=
  ⟨⟨_, [depth]⟩, rfl, List.forall_mem_singleton.mpr within, fun _ => rfl⟩

/-- A call ends with what the recursion on levels gives, and in the same run whatever fuel there is
beyond the levels that are left. -/
theorem exists_run_create (levels depth : Nat)
    (left : depth + 1 + levels = max 1 c.limits.depth) (r : Request α) :
    ∃ run, run.outcome = (c.partsAt h levels depth).answer r ∧
      (∀ d ∈ run.depths, d ≤ max 1 c.limits.depth) ∧
      ∀ fuel ≥ levels, c.create? h (fuel + 1) (depth + 1) r = some run := by
  have within : depth + 1 ≤ max 1 c.limits.depth := left ▸ Nat.le_add_right _ _
  induction levels generalizing depth r with
  | zero =>
    cases r with
    | text s =>
      obtain ⟨run, outcome, depths, ends⟩ := c.exists_run_text h within s
      exact ⟨run, outcome, depths, fun fuel _ => ends fuel⟩
    | value a hint =>
      -- The last level: no part is called for.
      have reached : ¬depth + 1 < c.limits.depth := by omega
      have agree (r : Request α) : Run.cut.outcome = (Nested.cutOff (depth + 1)).answer r := by
        cases r <;> rfl
      obtain ⟨run, outcome, depths, ends⟩ := c.exists_run_step h (.cutOff (depth + 1)) within
        (fun _ => .cut) agree (fun _ => List.forall_mem_nil _) a hint
      exact ⟨run, outcome, depths, fun fuel _ => ends fuel fun r => if_neg reached⟩
  | succ levels ih =>
    cases r with
    | text s =>
      obtain ⟨run, outcome, depths, ends⟩ := c.exists_run_text h within s
      exact ⟨run, outcome, depths, fun fuel _ => ends fuel⟩
    | value a hint =>
      have below : depth + 1 < c.limits.depth := by omega
      choose answers agree low ends' using fun r => ih (depth + 1) (by omega) r (by omega)
      obtain ⟨run, outcome, depths, ends⟩ :=
        c.exists_run_step h (c.partsAt h levels (depth + 1)) within answers agree low a hint
      refine ⟨run, outcome, depths, ?_⟩
      intro fuel enough
      obtain ⟨fuel, rfl⟩ := Nat.exists_eq_add_one_of_ne_zero (Nat.ne_zero_of_lt enough)
      exact ends (fuel + 1) fun r =>
        (if_pos below).trans (ends' r fuel (Nat.le_of_succ_le_succ enough))

end Calls

/-- Every capture ends, also where values are cyclic and policies give back what they were given.
But for the first call, none is made beyond the limit, so that fuel for as many levels as it allows
never runs out, and more fuel changes nothing. -/
theorem capture_ends (c : Converter α) (h : Host α) (a : α) (hint : Hint) :
    ∃ run : Run Value, run.outcome = c.capture h a hint ∧
      (∀ d ∈ run.depths, d ≤ max 1 c.limits.depth) ∧
      ∀ fuel ≥ max 1 c.limits.depth, c.create? h fuel 1 (.value a hint) = some run := by
  obtain ⟨run, outcome, depths, ends⟩ :=
    c.exists_run_create h (c.limits.depth - 1) 0 (by omega) (.value a hint)
  refine ⟨run, outcome, depths, ?_⟩
  intro fuel enough
  obtain ⟨fuel, rfl⟩ := Nat.exists_eq_add_one_of_ne_zero (by omega : fuel ≠ 0)
  exact ends fuel (by omega)

/-- Captures each value in place of itself. -/
def restless : Converter Subject where
  limits := { depth := 3 }
  policies := [Policy.transform some]

/-- Less fuel does not do. -/
example : (restless.create? Subject.rings 2 1 (.value (.link 7) .destructure)).isNone := by
  decide +kernel

example : ((restless.create? Subject.rings 3 1 (.value (.link 7) .destructure)).map (·.depths)) =
    some [1, 2, 3] := by
  decide +kernel

end Converter

end StructuredLog.Capture

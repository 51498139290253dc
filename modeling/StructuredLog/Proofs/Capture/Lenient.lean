import StructuredLog.Proofs.Capture.Strict

/-!
Lenient captures under policies of any kind. A property that cannot be read is replaced by a text,
so that nothing but a policy can fail; where none does so of its own accord, every capture has a
result.
-/

namespace StructuredLog.Capture

/-- Fails at most by handing on the failure of a capture that it asked for. -/
inductive Plan.Unfailing : Plan α → Prop
  | pass : Unfailing .pass
  | done {v} : Unfailing (.done v)
  | report {text next} : Unfailing next → Unfailing (.report text next)
  | ask {a hint next} : (∀ v, Unfailing (next (.ok v))) → Unfailing (.ask a hint next)

def Policy.Unfailing (p : Policy α) : Prop := ∀ depth a, (p depth a).Unfailing

theorem Policy.unfailing_transform (f : α → Option α) : (Policy.transform f).Unfailing := by
  intro depth a
  unfold Policy.transform
  cases f a with
  | none => exact .pass
  | some b => exact .ask fun _ => .done

theorem Outcome.each_total {f : α → Outcome β} (total : ∀ a, ∃ b, (f a).result = .ok b)
    (as : List α) : ∃ bs, (each f as).result = .ok bs := by
  induction as with
  | nil => exact ⟨_, rfl⟩
  | cons a as ih => exact bind_total (total a) fun _ => bind_total ih fun _ => ⟨_, rfl⟩

theorem Plan.run_total {capture : α → Hint → Outcome Value}
    (total : ∀ a hint, ∃ v, (capture a hint).result = .ok v) {p : Plan α}
    (unfailing : p.Unfailing) : ∃ v?, (p.run capture).result = .ok v? := by
  induction unfailing with
  | pass => exact ⟨_, rfl⟩
  | done => exact ⟨_, rfl⟩
  | report _ ih => exact Outcome.bind_total ⟨_, rfl⟩ fun _ => ih
  | @ask a hint next _ ih =>
    obtain ⟨v, ok⟩ := total a hint
    obtain ⟨v?, ok'⟩ := ih v
    exact ⟨v?, by rw [Plan.run, ok, ok']⟩

namespace Converter

section Total

variable {nested : Nested α} (total : Total nested)
include total

theorem consult_total {policies : List (Policy α)} (unfailing : ∀ p ∈ policies, p.Unfailing)
    (a : α) : ∃ v?, (nested.consult a policies).result = .ok v? := by
  induction policies with
  | nil => exact ⟨_, rfl⟩
  | cons p policies ih =>
    obtain ⟨first, rest⟩ := List.forall_mem_cons.mp unfailing
    refine Outcome.bind_total (Plan.run_total total.value (first nested.depth a)) fun v? => ?_
    cases v? with
    | none => exact ih rest
    | some v => exact ⟨_, rfl⟩

variable {c : Converter α} (lenient : c.strict = false)
include lenient

theorem source_total_of_lenient (typeName name : String) (source : Source α) :
    ∃ v, (c.source nested typeName name source).result = .ok v := by
  have same : c.source nested typeName name source =
      (c.withTransforms [] false).source nested typeName name source := by
    unfold Converter.source
    rw [lenient]
    rfl
  rw [same]
  exact source_total c [] total typeName name source

theorem members_total (typeName : String) (members : List (Member α)) (taken : List String) :
    ∃ ms, (c.members nested typeName members taken).result = .ok ms := by
  induction members generalizing taken with
  | nil => exact ⟨_, rfl⟩
  | cons member members ih =>
    cases member with
    | indexer name => exact Outcome.bind_total ⟨_, rfl⟩ fun _ => ih taken
    | property name source =>
      rw [Converter.members]
      split
      · exact ih taken
      · refine Outcome.bind_total ?_ fun v => Outcome.bind_total (ih _) fun ms => ⟨_, rfl⟩
        obtain ⟨v, ok⟩ := source_total_of_lenient total lenient typeName name source
        exact ⟨v, by rw [Outcome.orLog, ok]; exact ok⟩

theorem parts_total (l : Look α) (hint : Hint) : ∃ v, (c.parts nested l hint).result = .ok v := by
  unfold Converter.parts
  cases l.shape with
  | sequence items =>
    exact Outcome.bind_total (Outcome.each_total (total.value · hint) _) fun _ => ⟨_, rfl⟩
  | tuple items =>
    exact Outcome.bind_total (Outcome.each_total (total.value · hint) _) fun _ => ⟨_, rfl⟩
  | map key standard entries =>
    dsimp only
    split
    · exact Outcome.bind_total (Outcome.each_total (entry_total total hint) _) fun _ => ⟨_, rfl⟩
    · exact Outcome.bind_total (Outcome.each_total (pair_total total hint) _) fun _ => ⟨_, rfl⟩
  | object members =>
    dsimp only
    split
    · exact Outcome.bind_total (members_total total lenient _ members []) fun _ => ⟨_, rfl⟩
    · exact ⟨_, rfl⟩
  | _ => exact ⟨_, rfl⟩

theorem step_total (unfailing : ∀ p ∈ c.policies, p.Unfailing) (h : Host α) (a : α) (hint : Hint) :
    ∃ v, (c.step h nested a hint).result = .ok v := by
  unfold Converter.step
  dsimp only
  split
  · exact ⟨_, rfl⟩
  · split
    · refine Outcome.bind_total (consult_total total unfailing _) fun v? => ?_
      cases v? with
      | none => exact parts_total total lenient _ hint
      | some v => exact ⟨_, rfl⟩
    · exact parts_total total lenient _ hint

end Total

/-- A lenient capture has a result whenever no policy fails of its own accord. -/
theorem exists_result_of_unfailing {c : Converter α} (lenient : c.strict = false)
    (unfailing : ∀ p ∈ c.policies, p.Unfailing) (h : Host α) (a : α) (hint : Hint) :
    ∃ v, (c.capture h a hint).result = .ok v := by
  have result (levels depth : Nat) (a : α) (hint : Hint) :
      ∃ v, (c.captureAt h levels depth a hint).result = .ok v := by
    induction levels generalizing depth a hint with
    | zero => exact step_total (cutOff_total depth) lenient unfailing h a hint
    | succ levels ih =>
      exact step_total ⟨ih (depth + 1), fun _ => ⟨_, rfl⟩⟩ lenient unfailing h a hint
  exact result _ _ a hint

end Converter

end StructuredLog.Capture

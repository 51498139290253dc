import StructuredLog.Proofs.Capture.Dialogue
import StructuredLog.Proofs.Capture.Parts

/-!
Captures that the depth limit does not touch. Each cut is reported where it is made. So a capture
that reports none has met no cut, and under a greater limit it takes the same steps, whatever the
policies ask for on the way.
-/

namespace StructuredLog.Capture

/-- If the first outcome tells of no cut, the second one is the same. -/
def Settles (shallow deep : Outcome β) : Prop := .depthReached ∉ shallow.log → deep = shallow

namespace Settles

variable {shallow deep : Outcome β}

theorem refl (o : Outcome β) : Settles o o := fun _ => rfl

theorem of_cut (cut : .depthReached ∈ shallow.log) (deep : Outcome β) : Settles shallow deep :=
  fun silent => absurd cut silent

end Settles

/-- The parts of a value at one depth, captured under two limits. -/
structure PartsSettle (shallow deep : Nested α) : Prop where
  depth : deep.depth = shallow.depth
  value : ∀ b hint, Settles (shallow.value b hint) (deep.value b hint)
  text : ∀ s, Settles (shallow.text s) (deep.text s)

theorem PartsSettle.cutOff (depth : Nat) {deep : Nested α} (same : deep.depth = depth) :
    PartsSettle (.cutOff depth) deep where
  depth := same
  value _ _ := .of_cut (List.mem_singleton_self _) _
  text _ := .of_cut (List.mem_singleton_self _) _

namespace PartsSettle

variable {shallow deep : Nested α} (settles : PartsSettle shallow deep)
include settles

theorem answer (r : Request α) : Settles (shallow.answer r) (deep.answer r) := by
  cases r with
  | value a hint => exact settles.value a hint
  | text s => exact settles.text s

theorem hold (dialogue : Dialogue α β) :
    Settles (dialogue.hold shallow) (dialogue.hold deep) := by
  induction dialogue with
  | done result => exact .refl _
  | tell d next ih =>
    intro silent
    simp only [Dialogue.hold] at silent ⊢
    rw [ih (not_or.mp (List.mem_cons.not.mp silent)).2]
  | call accessor next ih =>
    intro silent
    simp only [Dialogue.hold] at silent ⊢
    rw [ih silent]
  | ask r next ih =>
    intro silent
    simp only [Dialogue.hold] at silent ⊢
    rw [List.mem_append, not_or] at silent
    -- The dialogue goes on from the answer, which is the same under both limits.
    rw [settles.answer r silent.1, ih _ silent.2]

theorem step (c : Converter α) (h : Host α) (a : α) (hint : Hint) :
    Settles (c.step h shallow a hint) (c.step h deep a hint) := by
  let scripted := Scripted.step shallow.depth c h a hint
  rw [← scripted.follows shallow rfl, ← scripted.follows deep settles.depth]
  exact settles.hold scripted.dialogue

end PartsSettle

namespace Converter

/-- The same converter with another depth limit. -/
def withDepth (c : Converter α) (depth : Nat) : Converter α :=
  { c with limits := { c.limits with depth } }

section WithDepth

variable (c : Converter α) (limit : Nat) (nested : Nested α)

theorem members_withDepth (typeName : String) (members : List (Member α)) (taken : List String) :
    (c.withDepth limit).members nested typeName members taken =
      c.members nested typeName members taken := by
  induction members generalizing taken with
  | nil => rfl
  | cons member members ih =>
    cases member with
    | indexer name => rw [Converter.members, Converter.members, ih]
    | property name source =>
      rw [Converter.members, Converter.members, ih, ih]
      rfl

theorem step_withDepth (h : Host α) :
    (c.withDepth limit).step h nested = c.step h nested := by
  have parts (l : Look α) (hint : Hint) :
      (c.withDepth limit).parts nested l hint = c.parts nested l hint := by
    unfold Converter.parts
    cases l.shape with
    | object members => simp only [members_withDepth]
    | _ => rfl
  funext a hint
  unfold Converter.step
  simp only [parts]
  rfl

end WithDepth

/-- The limit is the number of levels with which a capture starts, and nothing else. -/
theorem capture_withDepth (c : Converter α) (h : Host α) (limit : Nat) :
    (c.withDepth limit).capture h = c.captureAt h (limit - 1) 1 := by
  have same (levels depth : Nat) :
      (c.withDepth limit).captureAt h levels depth = c.captureAt h levels depth := by
    induction levels generalizing depth with
    | zero => exact step_withDepth c limit _ h
    | succ levels ih =>
      rw [captureAt_succ, captureAt_succ, step_withDepth, partsAt, ih]
      rfl
  funext a hint
  exact congrFun (congrFun (same (limit - 1) 1) a) hint

theorem captureAt_settles (c : Converter α) (h : Host α) {levels levels' : Nat}
    (le : levels ≤ levels') (depth : Nat) (a : α) (hint : Hint) :
    Settles (c.captureAt h levels depth a hint) (c.captureAt h levels' depth a hint) := by
  induction levels generalizing levels' depth a hint with
  | zero =>
    -- All parts are cut off under the first limit, so that a silent step has looked at none.
    cases levels' with
    | zero => exact .refl _
    | succ levels' => exact PartsSettle.step (.cutOff depth rfl) c h a hint
  | succ levels ih =>
    obtain ⟨levels', rfl⟩ := Nat.exists_eq_add_one_of_ne_zero (by omega : levels' ≠ 0)
    have parts : PartsSettle (c.partsAt h levels depth) (c.partsAt h levels' depth) :=
      ⟨rfl, ih (Nat.le_of_succ_le_succ le) (depth + 1), fun s => .refl _⟩
    exact parts.step c h a hint

/-- A capture that reports no cut is the same, result and log, under every greater limit. -/
theorem capture_eq_of_no_cut (c : Converter α) (h : Host α) (a : α) (hint : Hint) {d d' : Nat}
    (le : d ≤ d') (silent : .depthReached ∉ ((c.withDepth d).capture h a hint).log) :
    (c.withDepth d').capture h a hint = (c.withDepth d).capture h a hint := by
  rw [capture_withDepth] at silent
  rw [capture_withDepth, capture_withDepth]
  exact captureAt_settles c h (Nat.sub_le_sub_right le 1) 1 a hint silent

/-! ### A capture that ends above the limit -/

/-- A policy that tells of each value and has another one captured before it passes. -/
def noting : Converter Subject where
  policies := [fun _ _ => .report "Asked." (.ask (.plain "u8" (.text "1")) .default fun _ => .pass)]

def door : Subject :=
  .plain "Door" (.object
    [.property "Width" (.field (.plain "u8" (.text "80"))),
     .property "State" (.getter 1 (.error ⟨"core::fmt::Error", "stuck"⟩)), .indexer "Hinge"])

theorem door_silent :
    .depthReached ∉ ((noting.withDepth 2).capture Subject.rings door .destructure).log := by
  decide +kernel

theorem capture_door_eq :
    2 ≤ 5 ∧ .depthReached ∉ ((noting.withDepth 2).capture Subject.rings door .destructure).log ∧
      (noting.withDepth 5).capture Subject.rings door .destructure =
        (noting.withDepth 2).capture Subject.rings door .destructure :=
  ⟨by decide, door_silent,
    capture_eq_of_no_cut noting Subject.rings door .destructure (by decide) door_silent⟩

end Converter

end StructuredLog.Capture

import StructuredLog.Proofs.Capture.Nesting

/-!
Captures under the default hint. Each value hands the hint on to its parts, and what can fail, cuts
a text, asks a policy or looks at members is done under other hints only. So these captures always
have a result, without a record anywhere in it, and are the same for converters that differ in what
concerns the other hints.
-/

namespace StructuredLog

/-- No record stands in the value. -/
def Value.Recordless (v : Value) : Prop := ∀ tag members, ¬Value.Within (.record tag members) v

namespace Value

theorem recordless_of_branches {v : Value} (noRecord : ∀ tag members, v ≠ .record tag members)
    (branches : ∀ b ∈ v.branches, b.Recordless) : v.Recordless := by
  intro tag members within
  cases within with
  | refl => exact noRecord tag members rfl
  | branch mem within => exact branches _ mem tag members within

theorem recordless_scalar (s : Scalar) : (Value.scalar s).Recordless :=
  fun _ _ => not_record_within_scalar

theorem recordless_sequence {vs : List Value} (all : ∀ v ∈ vs, v.Recordless) :
    (sequence vs).Recordless :=
  recordless_of_branches nofun all

end Value

namespace Capture

/-- Gives a result of some kind without a call, and reports at most that the depth limit was
reached. -/
structure Yields (kind : β → Prop) (o : Outcome β) : Prop where
  result : ∃ b, o.result = .ok b ∧ kind b
  log : ∀ d ∈ o.log, d = .depthReached
  calls : o.calls = []

namespace Yields

variable {kind : β → Prop} {kind' : γ → Prop}

theorem pure {b : β} (isKind : kind b) : Yields kind (.pure b) :=
  ⟨⟨b, rfl, isKind⟩, List.forall_mem_nil _, rfl⟩

theorem bind {o : Outcome β} {f : β → Outcome γ} (first : Yields kind o)
    (next : ∀ b, kind b → Yields kind' (f b)) : Yields kind' (o.bind f) := by
  obtain ⟨log, calls, result⟩ := o
  obtain ⟨⟨b, rfl, isKind⟩, silent, idle⟩ := first
  obtain ⟨result, silent', idle'⟩ := next b isKind
  exact ⟨result, List.forall_mem_append.mpr ⟨silent, silent'⟩,
    List.append_eq_nil_iff.mpr ⟨idle, idle'⟩⟩

theorem each {f : α → Outcome β} {as : List α} (all : ∀ a ∈ as, Yields kind (f a)) :
    Yields (∀ b ∈ ·, kind b) (Outcome.each f as) := by
  induction as with
  | nil => exact .pure (List.forall_mem_nil _)
  | cons a as ih =>
    rw [List.forall_mem_cons] at all
    refine all.1.bind fun b isKind => ?_
    exact (ih all.2).bind fun bs areKind => .pure (List.forall_mem_cons.mpr ⟨isKind, areKind⟩)

end Yields

namespace Converter

section Step

variable {c : Converter α} {nested : Nested α}

theorem entry_yields (value : ∀ b, Yields Value.Recordless (nested.value b .default)) (e : α × α) :
    Yields (fun kept => ∀ e ∈ kept, e.2.Recordless) (entry nested .default e) := by
  refine (value e.1).bind fun key _ => ?_
  split
  · refine .pure ?_
    rintro _ ⟨⟩
  · refine (value e.2).bind fun v recordless => .pure ?_
    rintro _ ⟨⟩
    exact recordless

theorem pair_yields (value : ∀ b, Yields Value.Recordless (nested.value b .default)) (e : α × α) :
    Yields Value.Recordless (pair nested .default e) := by
  refine (value e.1).bind fun key ofKey => ?_
  refine (value e.2).bind fun v ofValue => .pure (Value.recordless_sequence ?_)
  exact List.forall_mem_cons.mpr ⟨ofKey, List.forall_mem_singleton.mpr ofValue⟩

theorem parts_yields (value : ∀ b, Yields Value.Recordless (nested.value b .default))
    (l : Look α) : Yields Value.Recordless (c.parts nested l .default) := by
  unfold Converter.parts
  cases l.shape with
  | sequence items =>
    exact (Yields.each fun b _ => value b).bind fun vs all => .pure (Value.recordless_sequence all)
  | tuple items =>
    exact (Yields.each fun b _ => value b).bind fun vs all => .pure (Value.recordless_sequence all)
  | map key standard entries =>
    dsimp only
    split
    · refine (Yields.each fun e _ => entry_yields value e).bind fun es all => .pure ?_
      refine Value.recordless_of_branches nofun fun v mem => ?_
      obtain ⟨e, kept, rfl⟩ := List.mem_map.mp mem
      obtain ⟨kept?, inEntries, eq⟩ := List.mem_filterMap.mp kept
      exact all kept? inEntries e eq
    · exact (Yields.each fun e _ => pair_yields value e).bind
        fun vs all => .pure (Value.recordless_sequence all)
  | _ => exact .pure (Value.recordless_scalar _)

theorem step_yields (value : ∀ b, Yields Value.Recordless (nested.value b .default)) (h : Host α)
    (a : α) : Yields Value.Recordless (c.step h nested a .default) := by
  unfold Converter.step
  dsimp only
  split
  · exact .pure (Value.recordless_scalar _)
  · exact parts_yields value _

end Step

theorem captureAt_yields (c : Converter α) (h : Host α) (levels depth : Nat) (a : α) :
    Yields Value.Recordless (c.captureAt h levels depth a .default) := by
  induction levels generalizing depth a with
  | zero =>
    refine step_yields (fun b => ⟨⟨.null, rfl, Value.recordless_scalar _⟩, ?_, rfl⟩) h a
    exact List.forall_mem_singleton.mpr rfl
  | succ levels ih => exact step_yields (ih (depth + 1)) h a

/-! ### What has no effect -/

/-- A converter with other settings for all that happens to values that are destructured. -/
def withDestructuring (c : Converter α) (policies : List (Policy α)) (textLength : Option Nat)
    (strict : Bool) : Converter α :=
  { c with policies, strict, limits := { c.limits with textLength } }

section Settings

variable (c : Converter α) (policies : List (Policy α)) (textLength : Option Nat) (strict : Bool)

theorem scalar?_withDestructuring (l : Look α) :
    (c.withDestructuring policies textLength strict).scalar? l .default =
      c.scalar? l .default := by
  unfold Converter.scalar?
  cases l.shape <;> rfl

theorem parts_withDestructuring {nested nested' : Nested α}
    (same : ∀ b, nested'.value b .default = nested.value b .default) (l : Look α) :
    (c.withDestructuring policies textLength strict).parts nested' l .default =
      c.parts nested l .default := by
  have entries : entry nested' .default = entry nested .default := by
    funext e
    unfold Converter.entry
    rw [same, same]
  have pairs : pair nested' .default = pair nested .default := by
    funext e
    unfold Converter.pair
    rw [same, same]
  unfold Converter.parts
  cases l.shape with
  | map key standard entries' =>
    rw [entries, pairs]
    rfl
  | sequence items =>
    simp only [same]
    rfl
  | tuple items => simp only [same]
  | _ => rfl

theorem captureAt_withDestructuring (h : Host α) (levels depth : Nat) (a : α) :
    (c.withDestructuring policies textLength strict).captureAt h levels depth a .default =
      c.captureAt h levels depth a .default := by
  have step {nested nested' : Nested α}
      (same : ∀ b, nested'.value b .default = nested.value b .default) (a : α) :
      (c.withDestructuring policies textLength strict).step h nested' a .default =
        c.step h nested a .default := by
    unfold Converter.step
    dsimp only
    rw [scalar?_withDestructuring, parts_withDestructuring c policies textLength strict same]
    rfl
  induction levels generalizing depth a with
  | zero => exact step (fun _ => rfl) a
  | succ levels ih => exact step (ih (depth + 1)) a

end Settings

/-- Under the default hint every capture has a result, in which no record stands at any depth. It
calls no accessor, and reports nothing but that the depth limit was reached. Policies, the limit on
texts and strictness have no effect on it. -/
theorem capture_default_recordless (c : Converter α) (h : Host α) (a : α) :
    (∃ v, (c.capture h a .default).result = .ok v ∧
      ∀ tag members, ¬(Value.record tag members).Within v) ∧
    (∀ d ∈ (c.capture h a .default).log, d = .depthReached) ∧
    (c.capture h a .default).calls = [] ∧
    ∀ policies textLength strict,
      (c.withDestructuring policies textLength strict).capture h a .default =
        c.capture h a .default := by
  obtain ⟨result, log, calls⟩ := c.captureAt_yields h (c.limits.depth - 1) 1 a
  refine ⟨result, log, calls, ?_⟩
  intro policies textLength strict
  exact c.captureAt_withDestructuring policies textLength strict h _ _ a

end Converter

end Capture

end StructuredLog

import Mathlib
import StructuredLog.Capture.Converter

/-!
What a capture with transforms reaches. A value is a scalar, or is replaced by a transform, or is
walked by its parts, and nothing else of it is looked at. Members whose name is taken, items beyond
the limit, values of null keys and all that lies below the last level are no parts of the walk, so
that their accessors are not reached.
-/

namespace StructuredLog

/-- A property could not be read. -/
def Diagnostic.isAccessFailure : Diagnostic → Bool
  | accessorFailed _ _ => true
  | accessorUnsupported _ _ => true
  | _ => false

namespace Capture

/-- What is reported of the property that an error names. -/
def CaptureError.diagnostic : CaptureError → Diagnostic
  | accessor _ property text => .accessorFailed property text
  | unsupported typeName property => .accessorUnsupported property typeName

@[simp] theorem CaptureError.isAccessFailure_diagnostic (e : CaptureError) :
    e.diagnostic.isAccessFailure = true := by
  cases e <;> rfl

/-- The value that a source has, unless it cannot be read. -/
def Source.value? : Source α → Option α
  | .field a => some a
  | .getter _ (.ok a) => some a
  | .getter _ (.error _) => none
  | .unsupported => none

theorem Source.eq_of_value? {source : Source α} {b : α} (value : source.value? = some b) :
    source = .field b ∨ ∃ accessor, source = .getter accessor (.ok b) := by
  cases source with
  | field => exact .inl (congrArg _ (Option.some_inj.mp value))
  | getter accessor result =>
    cases result with
    | ok => exact .inr ⟨accessor, congrArg _ (congrArg _ (Option.some_inj.mp value))⟩
    | error => contradiction
  | unsupported => contradiction

/-- The first property of a name is supplied by `source`. -/
inductive First (name : String) (source : Source α) : List (Member α) → Prop
  | here {ms} : First name source (.property name source :: ms)
  | afterIndexer {other ms} :
      First name source ms → First name source (.indexer other :: ms)
  | afterProperty {other source' ms} :
      other ≠ name → First name source ms → First name source (.property other source' :: ms)

namespace Converter

/-- A converter whose policies are transforms. -/
def withTransforms (c : Converter α) (transforms : List (α → Option α)) (strict : Bool) :
    Converter α :=
  { c with policies := transforms.map Policy.transform, strict }

/-! ### The walk -/

section Walk

variable (c : Converter α) (transforms : List (α → Option α)) (h : Host α)

/-- What the first transform that takes a value gives for it. -/
def substitute? (a : α) : Option α := transforms.findSome? fun f => f (h.unwrap a)

structure ByParts (a : α) (hint : Hint) : Prop where
  noScalar : c.scalar? (h.inside a) hint = none
  noSubstitute : hint = .destructure → substitute? transforms h a = none

/-- The values that are captured one level below a value, each with its hint. -/
inductive Part (nested : Nested α) (a : α) : Hint → α → Hint → Prop
  | substitute {b} :
      c.scalar? (h.inside a) .destructure = none → substitute? transforms h a = some b →
      Part nested a .destructure b .destructure
  | item {hint items b} :
      ByParts c transforms h a hint → (h.inside a).shape = .sequence items → b ∈ c.keep items →
      Part nested a hint b hint
  | component {hint items b} :
      ByParts c transforms h a hint → (h.inside a).shape = .tuple items → b ∈ items →
      Part nested a hint b hint
  | key {hint key standard entries k v} :
      ByParts c transforms h a hint → (h.inside a).shape = .map key standard entries →
      (k, v) ∈ c.keep entries → Part nested a hint k hint
  /-- A dictionary has no use for the value of a null key. -/
  | entry {hint key standard entries k v} :
      ByParts c transforms h a hint → (h.inside a).shape = .map key standard entries →
      (k, v) ∈ c.keep entries →
      (c.isDictionary (h.inside a) key standard = true →
        (nested.value k hint).result ≠ .ok .null) →
      Part nested a hint v hint
  | member {members name source b} :
      ByParts c transforms h a .destructure → (h.inside a).shape = .object members →
      First name source members → source.value? = some b →
      Part nested a .destructure b .destructure

/-- The failures of a value's own accessors. -/
inductive Fails (a : α) : CaptureError → Prop
  | getter {members name accessor error} :
      ByParts c transforms h a .destructure → (h.inside a).shape = .object members →
      First name (.getter accessor (.error error)) members →
      Fails a (.accessor (h.inside a).type.fullName name error.text)
  | unsupported {members name} :
      ByParts c transforms h a .destructure → (h.inside a).shape = .object members →
      First name .unsupported members →
      Fails a (.unsupported (h.inside a).type.fullName name)

/-- How a value's parts are captured where a property that cannot be read is replaced. -/
def below (levels depth : Nat) : Nested α :=
  ⟨depth, (c.withTransforms transforms false).captureAt h levels (depth + 1),
    fun s => .pure (.scalar (.string (c.truncate s)))⟩

/-- The failures that the capture of a value meets, with some levels left below it. -/
inductive Reaches : (levels depth : Nat) → α → Hint → CaptureError → Prop
  | own {levels depth a e} : Fails c transforms h a e → Reaches levels depth a .destructure e
  | deeper {levels depth a hint b hint' e} :
      Part c transforms h (below c transforms h levels depth) a hint b hint' →
      Reaches levels (depth + 1) b hint' e → Reaches (levels + 1) depth a hint e

end Walk

section Step

variable {c : Converter α} {transforms : List (α → Option α)} {h : Host α} {a : α} {hint : Hint}
variable (nested : Nested α) (strict : Bool)

@[simp] theorem scalar?_withTransforms (l : Look α) :
    (c.withTransforms transforms strict).scalar? l hint = c.scalar? l hint := rfl

@[simp] theorem policies_withTransforms :
    (c.withTransforms transforms strict).policies = transforms.map Policy.transform := rfl

theorem withTransforms_nil (noPolicies : c.policies = []) : c.withTransforms [] c.strict = c := by
  rw [withTransforms, List.map_nil, ← noPolicies]

theorem step_of_scalar {s : Scalar} (scalar : c.scalar? (h.inside a) hint = some s) :
    (c.withTransforms transforms strict).step h nested a hint = .pure (.scalar s) := by
  simp only [step, scalar?_withTransforms, scalar]

theorem consult_transforms (a : α) :
    nested.consult a (transforms.map Policy.transform) =
      match transforms.findSome? fun f => f a with
      | some b => (nested.value b .destructure).bind fun v => .pure (some v)
      | none => .pure none := by
  induction transforms with
  | nil => rfl
  | cons f fs ih =>
    rw [List.map_cons, Nested.consult, List.findSome?_cons]
    cases substitute : f a with
    | none =>
      simp only [Policy.transform, substitute, Plan.run, Outcome.pure_bind]
      exact ih
    | some b =>
      simp only [Policy.transform, substitute, Plan.replace, Plan.run]
      obtain ⟨log, calls, result⟩ := nested.value b .destructure
      cases result <;> simp [Plan.ofResult, Plan.run, Outcome.pure, Outcome.fail]

theorem step_of_substitute {b : α} (noScalar : c.scalar? (h.inside a) .destructure = none)
    (substitute : substitute? transforms h a = some b) :
    (c.withTransforms transforms strict).step h nested a .destructure =
      nested.value b .destructure := by
  rw [substitute?] at substitute
  simp only [step, scalar?_withTransforms, noScalar, policies_withTransforms, consult_transforms,
    substitute, if_true, Outcome.bind_assoc, Outcome.pure_bind, Outcome.bind_pure]

theorem step_of_byParts (byParts : ByParts c transforms h a hint) :
    (c.withTransforms transforms strict).step h nested a hint =
      (c.withTransforms transforms strict).parts nested (h.inside a) hint := by
  simp only [step, scalar?_withTransforms, byParts.noScalar]
  split
  · next destructure =>
    have noSubstitute := byParts.noSubstitute destructure
    rw [substitute?] at noSubstitute
    simp only [policies_withTransforms, consult_transforms, noSubstitute, Outcome.pure_bind]
  · rfl

/-- A value is captured in one of three ways. -/
theorem scalar_or_substitute_or_byParts (c : Converter α) (transforms : List (α → Option α))
    (h : Host α) (a : α) (hint : Hint) :
    (∃ s, c.scalar? (h.inside a) hint = some s) ∨
      (hint = .destructure ∧ c.scalar? (h.inside a) hint = none ∧
        ∃ b, substitute? transforms h a = some b) ∨
      ByParts c transforms h a hint := by
  cases scalar : c.scalar? (h.inside a) hint with
  | some s => exact .inl ⟨s, rfl⟩
  | none =>
    by_cases destructure : hint = .destructure
    · cases substitute : substitute? transforms h a with
      | some b => exact .inr (.inl ⟨destructure, rfl, b, rfl⟩)
      | none => exact .inr (.inr ⟨scalar, fun _ => substitute⟩)
    · exact .inr (.inr ⟨scalar, fun eq => absurd eq destructure⟩)

end Step

end Converter

end Capture

end StructuredLog

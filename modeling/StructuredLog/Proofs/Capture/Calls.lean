import StructuredLog.Proofs.Capture.Lenient
import StructuredLog.Proofs.Capture.Parts

/-!
The accessors that a capture calls, where properties that cannot be read are replaced and no policy
takes part. An object calls those of its first registrations, in their order, and what an accessor
gives is captured before the next one is called. Nothing else calls any, so that the calls of a
capture are those of the objects that it comes to.
-/

namespace StructuredLog.Capture

namespace Outcome

theorem calls_bind {o : Outcome β} {f : β → Outcome γ} {b : β} (ok : o.result = .ok b) :
    (o.bind f).calls = o.calls ++ (f b).calls := by
  obtain ⟨log, calls, result⟩ := o
  subst ok
  rfl

theorem calls_bind_pure {o : Outcome β} {f : β → γ} (total : ∃ b, o.result = .ok b) :
    (o.bind fun b => .pure (f b)).calls = o.calls := by
  obtain ⟨b, ok⟩ := total
  rw [calls_bind ok]
  exact List.append_nil _

theorem calls_orLog (o : Outcome β) (ds : List Diagnostic) : (o.orLog ds).calls = o.calls := by
  unfold orLog
  split <;> rfl

theorem calls_each {f : α → Outcome β} (total : ∀ a, ∃ b, (f a).result = .ok b) (as : List α) :
    (each f as).calls = as.flatMap fun a => (f a).calls := by
  induction as with
  | nil => rfl
  | cons a as ih =>
    obtain ⟨b, ok⟩ := total a
    rw [each, calls_bind ok, calls_bind_pure (each_total total as), ih, List.flatMap_cons]

theorem mem_calls_each_iff {f : α → Outcome β} (total : ∀ a, ∃ b, (f a).result = .ok b)
    {as : List α} {g : List β → γ} {accessor : Nat} :
    accessor ∈ ((each f as).bind fun bs => .pure (g bs)).calls ↔
      ∃ a ∈ as, accessor ∈ (f a).calls := by
  rw [calls_bind_pure (each_total total as), calls_each total, List.mem_flatMap]

end Outcome

def Source.accessor? : Source α → Option Nat
  | .getter accessor _ => some accessor
  | _ => none

/-- The calls for a property: its accessor first, and then those for the value that it gives. -/
def Nested.sourceCalls (nested : Nested α) (source : Source α) : List Nat :=
  source.accessor?.toList ++
    source.value?.toList.flatMap fun b => (nested.value b .destructure).calls

namespace Converter

section Parts

variable {c : Converter α} {h : Host α} {nested : Nested α} {a : α} {hint : Hint}
variable {accessor : Nat}

/-- A text takes the place of a property without a call. -/
structure Silent (nested : Nested α) : Prop extends Total nested where
  calls_text : ∀ s, (nested.text s).calls = []

theorem calls_source (lenient : c.strict = false) (silent : Silent nested)
    (typeName name : String) (source : Source α) :
    (c.source nested typeName name source).calls = nested.sourceCalls source := by
  cases source with
  | field b => simp [Converter.source, Nested.sourceCalls, Source.accessor?, Source.value?]
  | getter accessor result =>
    cases result with
    | ok b =>
      simp [Converter.source, Nested.sourceCalls, Source.accessor?, Source.value?, Outcome.call]
    | error e =>
      simp [Converter.source, Nested.sourceCalls, Source.accessor?, Source.value?, Outcome.call,
        Outcome.emit, lenient, silent.calls_text]
  | unsupported =>
    simp [Converter.source, Nested.sourceCalls, Source.accessor?, Source.value?, Outcome.emit,
      lenient, silent.calls_text]

/-- Shadowed registrations are passed over. -/
theorem calls_members (lenient : c.strict = false) (silent : Silent nested) (typeName : String)
    (members : List (Member α)) (taken : List String) :
    (c.members nested typeName members taken).calls =
      (readable members taken).flatMap fun p => nested.sourceCalls p.2 := by
  induction members generalizing taken with
  | nil => rfl
  | cons member members ih =>
    cases member with
    | indexer name =>
      rw [Converter.members, readable, Outcome.calls_bind (b := ()) rfl, ih]
      rfl
    | property name source =>
      rw [Converter.members, readable]
      split
      · exact ih taken
      · obtain ⟨v, ok⟩ :=
          source_total_of_lenient silent.toTotal lenient typeName name source
        have supplied : ((c.source nested typeName name source).orLog
            (skipped typeName members)).result = .ok v := by
          rw [Outcome.result_orLog, ok]
        have rest := members_total silent.toTotal lenient typeName members (name :: taken)
        rw [Outcome.calls_bind supplied, Outcome.calls_orLog, Outcome.calls_bind_pure rest, ih,
          calls_source lenient silent, List.flatMap_cons]

/-- The value of a null key is not captured. -/
theorem mem_calls_entry_iff (total : Total nested) {e : α × α} :
    accessor ∈ (entry nested hint e).calls ↔
      accessor ∈ (nested.value e.1 hint).calls ∨
        (nested.value e.1 hint).result ≠ .ok .null ∧ accessor ∈ (nested.value e.2 hint).calls := by
  obtain ⟨key, ok⟩ := total.value e.1 hint
  rw [entry, Outcome.calls_bind ok, List.mem_append, ok]
  split
  · simp [Outcome.pure, Value.null]
  · next notNull =>
    have other : Except.ok key ≠ (.ok .null : Except CaptureError Value) :=
      fun null => notNull (Except.ok.inj null)
    rw [Outcome.calls_bind_pure (total.value e.2 hint)]
    simp [other]

theorem mem_calls_pair_iff (total : Total nested) {e : α × α} :
    accessor ∈ (pair nested hint e).calls ↔
      accessor ∈ (nested.value e.1 hint).calls ∨ accessor ∈ (nested.value e.2 hint).calls := by
  obtain ⟨key, ok⟩ := total.value e.1 hint
  rw [pair, Outcome.calls_bind ok, Outcome.calls_bind_pure (total.value e.2 hint), List.mem_append]

variable (c h) in
/-- The accessors that the capture of an object calls itself. -/
inductive Calls (a : α) (accessor : Nat) : Prop
  | getter {members name result} :
      ByParts c [] h a .destructure → (h.inside a).shape = .object members →
      First name (.getter accessor result) members → Calls a accessor

theorem mem_sourceCalls_iff {source : Source α} :
    accessor ∈ nested.sourceCalls source ↔ source.accessor? = some accessor ∨
      ∃ b, source.value? = some b ∧ accessor ∈ (nested.value b .destructure).calls := by
  simp [Nested.sourceCalls]

theorem calls_object (lenient : c.strict = false) (silent : Silent nested)
    {members : List (Member α)} (shape : (h.inside a).shape = .object members) :
    (c.parts nested (h.inside a) .destructure).calls =
      (readable members []).flatMap fun p => nested.sourceCalls p.2 := by
  have total := members_total silent.toTotal lenient (h.inside a).type.fullName members []
  rw [Converter.parts, shape]
  exact (Outcome.calls_bind_pure total).trans (calls_members lenient silent _ _ _)

/-- What is called for a value is called by itself or for one of its parts. -/
theorem called_of_mem_calls_parts (lenient : c.strict = false) (silent : Silent nested)
    (byParts : ByParts c [] h a hint)
    (mem : accessor ∈ (c.parts nested (h.inside a) hint).calls) :
    hint = .destructure ∧ Calls c h a accessor ∨
      ∃ b hint', Part c [] h nested a hint b hint' ∧ accessor ∈ (nested.value b hint').calls := by
  cases shape : (h.inside a).shape with
  | sequence items =>
    rw [Converter.parts, shape] at mem
    obtain ⟨b, inItems, called⟩ := (Outcome.mem_calls_each_iff (silent.value · hint)).mp mem
    exact .inr ⟨b, hint, .item byParts shape inItems, called⟩
  | tuple items =>
    rw [Converter.parts, shape] at mem
    obtain ⟨b, inItems, called⟩ := (Outcome.mem_calls_each_iff (silent.value · hint)).mp mem
    exact .inr ⟨b, hint, .component byParts shape inItems, called⟩
  | map key standard entries =>
    rw [Converter.parts, shape] at mem
    dsimp only at mem
    split at mem
    · obtain ⟨e, inEntries, called⟩ :=
        (Outcome.mem_calls_each_iff (entry_total silent.toTotal hint)).mp mem
      obtain called | ⟨notNull, called⟩ := (mem_calls_entry_iff silent.toTotal).mp called
      · exact .inr ⟨_, hint, .key byParts shape inEntries, called⟩
      · exact .inr ⟨_, hint, .entry byParts shape inEntries fun _ => notNull, called⟩
    · next noDictionary =>
      obtain ⟨e, inEntries, called⟩ :=
        (Outcome.mem_calls_each_iff (pair_total silent.toTotal hint)).mp mem
      obtain called | called := (mem_calls_pair_iff silent.toTotal).mp called
      · exact .inr ⟨_, hint, .key byParts shape inEntries, called⟩
      · exact .inr ⟨_, hint, .entry byParts shape inEntries (absurd · noDictionary), called⟩
  | object members =>
    by_cases destructure : hint = .destructure
    · subst destructure
      rw [calls_object lenient silent shape, List.mem_flatMap] at mem
      obtain ⟨⟨name, source⟩, inReadable, called⟩ := mem
      have first := (first_of_mem_readable inReadable).1
      obtain own | ⟨b, value, called⟩ := mem_sourceCalls_iff.mp called
      · cases source with
        | getter =>
          cases own
          exact .inl ⟨rfl, byParts, shape, first⟩
        | _ => contradiction
      · exact .inr ⟨b, .destructure, .member byParts shape first value, called⟩
    · rw [Converter.parts, shape] at mem
      simp [destructure, Outcome.pure] at mem
  | _ =>
    rw [Converter.parts, shape] at mem
    contradiction

/-- What is called for the source of a first registration is called for its object. -/
theorem mem_calls_of_first (lenient : c.strict = false) (silent : Silent nested)
    {members : List (Member α)} (shape : (h.inside a).shape = .object members) {name : String}
    {source : Source α} (first : First name source members)
    (called : accessor ∈ nested.sourceCalls source) :
    accessor ∈ (c.parts nested (h.inside a) .destructure).calls := by
  rw [calls_object lenient silent shape]
  exact List.mem_flatMap.mpr
    ⟨(name, source), mem_readable_iff.mpr ⟨first, List.not_mem_nil⟩, called⟩

theorem mem_calls_of_entry (silent : Silent nested) {key : TypeDesc} {standard : Bool}
    {entries : List (α × α)} {e : α × α} (shape : (h.inside a).shape = .map key standard entries)
    (mem : e ∈ c.keep entries)
    (inEntry : c.isDictionary (h.inside a) key standard = true →
      accessor ∈ (entry nested hint e).calls)
    (inPair : accessor ∈ (pair nested hint e).calls) :
    accessor ∈ (c.parts nested (h.inside a) hint).calls := by
  rw [Converter.parts, shape]
  dsimp only
  split
  · next dictionary =>
    exact (Outcome.mem_calls_each_iff (entry_total silent.toTotal hint)).mpr
      ⟨e, mem, inEntry dictionary⟩
  · exact (Outcome.mem_calls_each_iff (pair_total silent.toTotal hint)).mpr ⟨e, mem, inPair⟩

theorem Part.byParts {b : α} {hint' : Hint} (part : Part c [] h nested a hint b hint') :
    ByParts c [] h a hint := by
  cases part with
  | substitute _ substitute => contradiction
  | item byParts | component byParts | key byParts | entry byParts | member byParts =>
    exact byParts

theorem Part.mem_calls (lenient : c.strict = false) (silent : Silent nested) {b : α} {hint' : Hint}
    (part : Part c [] h nested a hint b hint') (called : accessor ∈ (nested.value b hint').calls) :
    accessor ∈ (c.parts nested (h.inside a) hint).calls := by
  cases part with
  | substitute _ substitute => contradiction
  | item _ shape mem =>
    rw [Converter.parts, shape]
    exact (Outcome.mem_calls_each_iff (silent.value · hint)).mpr ⟨b, mem, called⟩
  | component _ shape mem =>
    rw [Converter.parts, shape]
    exact (Outcome.mem_calls_each_iff (silent.value · hint)).mpr ⟨b, mem, called⟩
  | key _ shape mem =>
    exact mem_calls_of_entry silent shape mem
      (fun _ => (mem_calls_entry_iff silent.toTotal).mpr (.inl called))
      ((mem_calls_pair_iff silent.toTotal).mpr (.inl called))
  | entry _ shape mem notNull =>
    exact mem_calls_of_entry silent shape mem
      (fun dictionary =>
        (mem_calls_entry_iff silent.toTotal).mpr (.inr ⟨notNull dictionary, called⟩))
      ((mem_calls_pair_iff silent.toTotal).mpr (.inr called))
  | member _ shape first value =>
    exact mem_calls_of_first lenient silent shape first
      (mem_sourceCalls_iff.mpr (.inr ⟨b, value, called⟩))

end Parts

/-! ### All calls of a capture -/

section Walk

variable (c : Converter α) (h : Host α)

/-- The values that a capture comes to, each with its hint, its depth and the levels left below
it. -/
inductive Visits : (levels depth : Nat) → α → Hint → (levels' depth' : Nat) → α → Hint → Prop
  | start {levels depth a hint} : Visits levels depth a hint levels depth a hint
  | deeper {levels depth a hint b hint' levels' depth' last hint''} :
      Part c [] h (c.partsAt h levels depth) a hint b hint' →
      Visits levels (depth + 1) b hint' levels' depth' last hint'' →
      Visits (levels + 1) depth a hint levels' depth' last hint''

end Walk

section Captures

variable {c : Converter α} {h : Host α} {a : α} {hint : Hint} {accessor : Nat}
variable (lenient : c.strict = false) (noPolicies : c.policies = [])
include lenient noPolicies

theorem nestedAt_silent (levels depth : Nat) : Silent (c.nestedAt h levels depth) := by
  cases levels with
  | zero => exact ⟨cutOff_total depth, fun _ => rfl⟩
  | succ levels =>
    exact ⟨⟨exists_result lenient noPolicies h levels (depth + 1), fun _ => ⟨_, rfl⟩⟩, fun _ => rfl⟩

theorem mem_calls_captureAt_iff (levels depth : Nat) :
    accessor ∈ (c.captureAt h levels depth a hint).calls ↔
      hint = .destructure ∧ Calls c h a accessor ∨
        ∃ b hint', Part c [] h (c.nestedAt h levels depth) a hint b hint' ∧
          accessor ∈ ((c.nestedAt h levels depth).value b hint').calls := by
  have silent := nestedAt_silent (h := h) lenient noPolicies levels depth
  have step : c.captureAt h levels depth a hint =
      (c.withTransforms [] c.strict).step h (c.nestedAt h levels depth) a hint := by
    rw [withTransforms_nil noPolicies, captureAt_eq_step]
  have whole (byParts : ByParts c [] h a hint) : c.captureAt h levels depth a hint =
      c.parts (c.nestedAt h levels depth) (h.inside a) hint := by
    rw [step, step_of_byParts _ _ byParts, withTransforms_nil noPolicies]
  constructor
  · intro mem
    obtain ⟨s, scalar⟩ | ⟨-, -, b, substitute⟩ | byParts :=
      scalar_or_substitute_or_byParts c [] h a hint
    · rw [step, step_of_scalar _ _ scalar] at mem
      contradiction
    · contradiction
    · rw [whole byParts] at mem
      exact called_of_mem_calls_parts lenient silent byParts mem
  · rintro (⟨rfl, byParts, shape, first⟩ | ⟨b, hint', part, called⟩)
    · rw [whole byParts]
      exact mem_calls_of_first lenient silent shape first (mem_sourceCalls_iff.mpr (.inl rfl))
    · rw [whole part.byParts]
      exact part.mem_calls lenient silent called

/-- The accessors called for a value are those of the objects that its capture comes to, each of
which calls those of its first registrations. -/
theorem mem_calls_iff_visits (levels depth : Nat) :
    accessor ∈ (c.captureAt h levels depth a hint).calls ↔ ∃ levels' depth' b,
      Visits c h levels depth a hint levels' depth' b .destructure ∧ Calls c h b accessor := by
  induction levels generalizing depth a hint with
  | zero =>
    rw [mem_calls_captureAt_iff lenient noPolicies]
    constructor
    · rintro (⟨rfl, calls⟩ | ⟨b, hint', -, called⟩)
      · exact ⟨0, depth, a, .start, calls⟩
      · contradiction
    · rintro ⟨levels', depth', b, visits, calls⟩
      cases visits with
      | start => exact .inl ⟨rfl, calls⟩
  | succ levels ih =>
    rw [mem_calls_captureAt_iff lenient noPolicies]
    constructor
    · rintro (⟨rfl, calls⟩ | ⟨b, hint', part, called⟩)
      · exact ⟨levels + 1, depth, a, .start, calls⟩
      · obtain ⟨levels', depth', last, visits, calls⟩ := (ih (depth + 1)).mp called
        exact ⟨levels', depth', last, .deeper part visits, calls⟩
    · rintro ⟨levels', depth', last, visits, calls⟩
      cases visits with
      | start => exact .inl ⟨rfl, calls⟩
      | deeper part visits =>
        exact .inr ⟨_, _, part, (ih (depth + 1)).mpr ⟨levels', depth', last, visits, calls⟩⟩

end Captures

end Converter

end StructuredLog.Capture

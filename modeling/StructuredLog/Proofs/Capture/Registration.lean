import StructuredLog.Proofs.Capture.Calls
import StructuredLog.Proofs.Capture.Nesting
import StructuredLog.Proofs.Capture.TypePath

/-!
The members of records. An object registers its properties one after the other, and may register a
name more than once. The first registration of a name that is no indexer supplies the member; later
ones are as good as absent, and their accessors are not called. What is true of one object is true
of every record in a result, as each of them is the capture of an object that the walk visits.
-/

namespace StructuredLog.Capture

/-! ### Registrations of one object -/

def Member.propertyName? : Member α → Option String
  | .property name _ => some name
  | .indexer _ => none

/-- The names of the registrations that are no indexers. -/
def propertyNames (members : List (Member α)) : List String :=
  members.filterMap Member.propertyName?

theorem map_fst_readable (members : List (Member α)) (taken : List String) :
    (readable members taken).map (·.1) =
      ((propertyNames members).filter fun name => !taken.contains name).eraseDups := by
  induction members generalizing taken with
  | nil => rfl
  | cons member members ih =>
    cases member with
    | indexer name => exact ih taken
    | property name source =>
      have names : propertyNames (.property name source :: members) =
          name :: propertyNames members := rfl
      rw [readable, names]
      cases shadowed : taken.contains name with
      | true =>
        rw [if_pos rfl, ih, List.filter_cons_of_neg (by simpa using shadowed)]
      | false =>
        rw [if_neg Bool.false_ne_true, List.map_cons, ih,
          List.filter_cons_of_pos (by simpa using shadowed), List.eraseDups_cons,
          List.filter_filter]
        -- A name is free after this one if it is another one and was free before.
        congr 3
        funext other
        rw [List.contains_cons, Bool.not_or]

theorem nodup_readable (members : List (Member α)) (taken : List String) :
    ((readable members taken).map (·.1)).Nodup := by
  induction members generalizing taken with
  | nil => exact List.nodup_nil
  | cons member members ih =>
    cases member with
    | indexer name => exact ih taken
    | property name source =>
      rw [readable]
      split
      · exact ih taken
      · refine List.nodup_cons.mpr ⟨?_, ih (name :: taken)⟩
        intro again
        obtain ⟨⟨name', source'⟩, mem, rfl⟩ := List.mem_map.mp again
        exact (first_of_mem_readable mem).2 List.mem_cons_self

/-- What a registration supplies, captured as a part. An error is replaced by a text that names its
type; `named` is the name that it gives, for the full name. -/
def Nested.supplied (nested : Nested α) (named : String → String) : Source α → Outcome Value
  | .field a => nested.value a .destructure
  | .getter _ (.ok a) => nested.value a .destructure
  | .getter _ (.error e) =>
    nested.text ("The property accessor threw an exception: " ++ named e.typeName)
  | .unsupported => nested.text "Accessing this property is not supported"

/-- Each name once, in the order of its first registration, with what that one supplies. -/
structure FirstRegistrations (nested : Nested α) (named : String → String)
    (members : List (Member α)) (ms : List (String × Value)) : Prop where
  names : ms.map (·.1) = (propertyNames members).eraseDups
  nodup : (ms.map (·.1)).Nodup
  mem_iff : ∀ name v, (name, v) ∈ ms ↔
    ∃ source, First name source members ∧ (nested.supplied named source).result = .ok v

theorem firstRegistrations_of_forall₂ {nested : Nested α} {named : String → String}
    {members : List (Member α)} {ms : List (String × Value)}
    (all : List.Forall₂ (fun p m => m.1 = p.1 ∧ (nested.supplied named p.2).result = .ok m.2)
      (readable members []) ms) :
    FirstRegistrations nested named members ms := by
  have names : ms.map (·.1) = (readable members []).map (·.1) := by
    rw [← List.forall₂_eq_eq_eq, List.forall₂_map_left_iff, List.forall₂_map_right_iff]
    exact all.flip.imp fun m p same => same.1
  refine ⟨?_, names ▸ nodup_readable members [], ?_⟩
  · rw [names, map_fst_readable]
    congr 1
    exact List.filter_eq_self.mpr fun _ _ => rfl
  intro name v
  constructor
  · intro mem
    obtain ⟨⟨name', source⟩, inReadable, rfl, supplied⟩ := Converter.exists_of_forall₂
      ((List.forall₂_and_left _ _).mpr ⟨fun _ mem => mem, all⟩) mem
    exact ⟨source, (first_of_mem_readable inReadable).1, supplied⟩
  · rintro ⟨source, first, supplied⟩
    have inReadable : (name, source) ∈ readable members [] :=
      mem_readable_iff.mpr ⟨first, List.not_mem_nil⟩
    obtain ⟨⟨name', v'⟩, mem, rfl, supplied'⟩ := Converter.exists_of_forall₂
      ((List.forall₂_and_left _ _).mpr ⟨fun _ mem => mem, all.flip⟩) inReadable
    rw [supplied] at supplied'
    cases supplied'
    exact mem

/-! ### Registrations that are not looked at -/

/-- Without the properties whose name is taken. -/
def unshadowed : List (Member α) → List String → List (Member α)
  | [], _ => []
  | .indexer name :: ms, taken => .indexer name :: unshadowed ms taken
  | .property name source :: ms, taken =>
    if taken.contains name then unshadowed ms taken
    else .property name source :: unshadowed ms (name :: taken)

def Look.unshadowed (l : Look α) : Look α :=
  match l.shape with
  | .object members => { l with shape := .object (Capture.unshadowed members []) }
  | _ => l

theorem Look.unshadowed_shape_eq_wrapper {l : Look α} {b : α} :
    l.unshadowed.shape = .wrapper b ↔ l.shape = .wrapper b := by
  unfold Look.unshadowed
  cases shape : l.shape <;> simp [shape]

/-- The same values, whose objects have only the first property of each name, and their indexers. -/
def Host.unshadowed (h : Host α) : Host α :=
  h.withLooks Look.unshadowed Look.unshadowed_shape_eq_wrapper

namespace Converter

section Unshadowed

variable (c : Converter α) (nested : Nested α)

theorem skipped_unshadowed (typeName : String) (members : List (Member α)) (taken : List String) :
    skipped typeName (unshadowed members taken) = skipped typeName members := by
  induction members generalizing taken with
  | nil => rfl
  | cons member members ih =>
    unfold skipped at ih ⊢
    cases member with
    | indexer name => rw [unshadowed, List.filterMap_cons, List.filterMap_cons, ih]
    | property name source =>
      rw [unshadowed, List.filterMap_cons]
      split
      · exact ih taken
      · rw [List.filterMap_cons]
        exact ih (name :: taken)

theorem members_unshadowed (typeName : String) (members : List (Member α)) (taken : List String) :
    c.members nested typeName (unshadowed members taken) taken =
      c.members nested typeName members taken := by
  induction members generalizing taken with
  | nil => rfl
  | cons member members ih =>
    cases member with
    | indexer name => rw [unshadowed, Converter.members, Converter.members, ih]
    | property name source =>
      rw [unshadowed, Converter.members]
      split
      · exact ih taken
      · next free =>
        rw [Converter.members, if_neg free, ih, skipped_unshadowed]

theorem step_unshadowed (h : Host α) (a : α) (hint : Hint) :
    c.step h.unshadowed nested a hint = c.step h nested a hint := by
  have inside : h.unshadowed.inside a = (h.inside a).unshadowed := h.inside_withLooks _ _ a
  have unwrap : h.unshadowed.unwrap a = h.unwrap a := h.unwrap_withLooks _ _ a
  have scalar (l : Look α) : c.scalar? l.unshadowed hint = c.scalar? l hint := by
    obtain ⟨shape, type, registeredAs, ownText?⟩ := l
    cases shape <;> cases hint <;> rfl
  have parts (l : Look α) : c.parts nested l.unshadowed hint = c.parts nested l hint := by
    obtain ⟨shape, type, registeredAs, ownText?⟩ := l
    cases shape with
    | object members =>
      simp only [Converter.parts, Look.unshadowed, members_unshadowed]
      rfl
    | _ => rfl
  unfold Converter.step
  simp only [inside, unwrap, scalar, parts]

/-- Shadowed registrations may be left out: neither result nor log tells that they are there. -/
theorem capture_unshadowed (h : Host α) (a : α) (hint : Hint) :
    c.capture h.unshadowed a hint = c.capture h a hint := by
  have same (levels depth : Nat) :
      c.captureAt h.unshadowed levels depth = c.captureAt h levels depth := by
    induction levels generalizing depth with
    | zero => exact funext fun a => funext fun hint => c.step_unshadowed _ h a hint
    | succ levels ih =>
      rw [captureAt_succ, captureAt_succ, partsAt, ih]
      exact funext fun a => funext fun hint => c.step_unshadowed _ h a hint
  rw [capture, same]
  rfl

end Unshadowed

/-! ### All records of a result -/

section Records

variable {c : Converter α} {h : Host α} {a : α} {hint : Hint} {v : Value}
variable {tag : Option String} {ms : List (String × Value)}

theorem atom?_object {members : List (Member α)} (shape : (h.inside a).shape = .object members)
    (unregistered : c.scalarTypes.contains (h.inside a).registeredAs = false) :
    c.atom? (h.inside a) .destructure = none := by
  simp only [atom?, scalar?, alone?, shape, unregistered]
  rfl

/-- A record in a value that is put together from parts is the value or stands in a part's. -/
theorem Assembled.record_within {nested : Nested α} {shape : Shape α}
    (assembled : Assembled c [] h a nested shape hint v)
    (texts : ∀ s v, (nested.text s).result = .ok v → ∃ s', v = .scalar s')
    (within : (Value.record tag ms).Within v) :
    .record tag ms = v ∨
      ∃ b hint' w, Branch c [] h a nested hint b hint' w ∧ (Value.record tag ms).Within w := by
  rcases within with _ | ⟨mem, within⟩
  · exact .inl rfl
  right
  cases assembled with
  | sequence all =>
    obtain ⟨b, branch⟩ := exists_of_forall₂ all mem
    exact ⟨b, hint, _, branch, within⟩
  | tuple all =>
    obtain ⟨b, branch⟩ := exists_of_forall₂ all mem
    exact ⟨b, hint, _, branch, within⟩
  | dictionary isMap all =>
    obtain ⟨e, inEntries, rfl⟩ := List.mem_map.mp mem
    obtain ⟨kept, mem, eq⟩ := List.mem_filterMap.mp inEntries
    obtain ⟨e, entry⟩ := exists_of_forall₂ all mem
    cases entry with
    | nullKey ofKey => contradiction
    | entry ofKey notNull ofValue =>
      cases eq
      exact ⟨_, hint, _, ofValue, within⟩
  | pairs isMap all =>
    obtain ⟨e, pair⟩ := exists_of_forall₂ all mem
    cases pair with
    | pair ofKey ofValue =>
      -- The record stands in the key or in the value, as the pair is none.
      rcases within with _ | ⟨mem, within⟩
      rcases List.mem_pair.mp mem with rfl | rfl
      · exact ⟨_, hint, _, ofKey, within⟩
      · exact ⟨_, hint, _, ofValue, within⟩
  | record all =>
    obtain ⟨m, inMembers, rfl⟩ := List.mem_map.mp mem
    obtain ⟨p, member⟩ := exists_of_forall₂ all inMembers
    cases member with
    | field branch => exact ⟨_, .destructure, _, branch, within⟩
    | getter branch => exact ⟨_, .destructure, _, branch, within⟩
    | failed text | unsupported text =>
      obtain ⟨s, rfl⟩ := texts _ _ text
      exact absurd within Value.not_record_within_scalar

theorem nestedAt_text {levels depth : Nat} {s : String}
    (ok : ((c.nestedAt h levels depth).text s).result = .ok v) : ∃ s', v = .scalar s' := by
  cases levels <;> cases ok <;> exact ⟨_, rfl⟩

theorem object_or_branch_of_record_within (noPolicies : c.policies = []) {levels depth : Nat}
    (ok : (c.captureAt h levels depth a hint).result = .ok v)
    (within : (Value.record tag ms).Within v) :
    (∃ members, hint = .destructure ∧ (h.inside a).shape = .object members ∧
      Assembled c [] h a (c.nestedAt h levels depth) (.object members) .destructure
        (.record tag ms)) ∨
    ∃ b hint' w, Branch c [] h a (c.nestedAt h levels depth) hint b hint' w ∧
      (Value.record tag ms).Within w := by
  cases atom : c.atom? (h.inside a) hint with
  | some s =>
    rw [captureAt_of_atom noPolicies atom] at ok
    cases ok
    exact absurd within Value.not_record_within_scalar
  | none =>
    have assembled := assembled_of_no_atom noPolicies atom ok
    obtain rfl | inBranch := assembled.record_within (fun _ _ => nestedAt_text) within
    · left
      generalize shape : (h.inside a).shape = shape' at assembled
      cases assembled with
      | record all => exact ⟨_, rfl, rfl, .record all⟩
    · exact .inr inBranch

theorem exists_visited_of_record_within (noPolicies : c.policies = []) {levels depth : Nat}
    (ok : (c.captureAt h levels depth a hint).result = .ok v)
    (within : (Value.record tag ms).Within v) :
    ∃ levels' depth' b members, Visits c h levels depth a hint levels' depth' b .destructure ∧
      (h.inside b).shape = .object members ∧
      Assembled c [] h b (c.nestedAt h levels' depth') (.object members) .destructure
        (.record tag ms) := by
  induction levels generalizing depth a hint v with
  | zero =>
    obtain ⟨members, rfl, shape, assembled⟩ | ⟨b, hint', w, branch, within⟩ :=
      object_or_branch_of_record_within noPolicies ok within
    · exact ⟨0, depth, a, members, .start, shape, assembled⟩
    · -- Parts of the last level are null.
      cases branch.result
      exact absurd within Value.not_record_within_scalar
  | succ levels ih =>
    obtain ⟨members, rfl, shape, assembled⟩ | ⟨b, hint', w, branch, within⟩ :=
      object_or_branch_of_record_within noPolicies ok within
    · exact ⟨levels + 1, depth, a, members, .start, shape, assembled⟩
    · obtain ⟨levels', depth', b', members, visits, rest⟩ := ih branch.result within
      exact ⟨levels', depth', b', members, .deeper branch.part visits, rest⟩

/-- What is taken for the name of an error's type. -/
def errorName (fullName : String) : String := (TypeDesc.mk fullName false false).name

/-- What the members of a record are made of. -/
theorem Assembled.firstRegistrations {nested : Nested α} {members : List (Member α)}
    (assembled : Assembled c [] h a nested (.object members) .destructure (.record tag ms)) :
    FirstRegistrations nested errorName members ms := by
  cases assembled with
  | record all =>
    refine firstRegistrations_of_forall₂ (all.imp fun p m member => ?_)
    cases member with
    | field branch => exact ⟨rfl, branch.result⟩
    | getter branch => exact ⟨rfl, branch.result⟩
    | failed text => exact ⟨rfl, text⟩
    | unsupported text => exact ⟨rfl, text⟩

end Records

/-- Without policies, and where a property that cannot be read is replaced, an object is captured as
a record with one member for each name that it registers for a property: the names in the order of
their first registrations, each with what that registration supplies, captured one level deeper.
Every record in a result, at any depth, is made in this way, of an object that the capture comes to.
A text in place of a property is captured as any other text. The name that it gives to the type of
an error is that of the last segment just where no qualified self stands before the path and the
segment which the first arguments follow has the same name. The accessors that are called are those
of first registrations, in their order, and of no others: where later registrations are left out,
at every depth, the capture is the same, result, calls and log. -/
theorem records_keep_first_registrations {c : Converter α} (lenient : c.strict = false)
    (noPolicies : c.policies = []) (h : Host α) :
    (∀ levels depth a members, (h.inside a).shape = .object members →
      c.scalarTypes.contains (h.inside a).registeredAs = false →
      (∃ tag ms, (c.captureAt h levels depth a .destructure).result = .ok (.record tag ms) ∧
        FirstRegistrations (c.nestedAt h levels depth) errorName members ms) ∧
      (c.captureAt h levels depth a .destructure).calls =
        (readable members []).flatMap fun p => (c.nestedAt h levels depth).sourceCalls p.2) ∧
    (∀ a hint, ∃ v, (c.capture h a hint).result = .ok v ∧
      ∀ tag ms, (Value.record tag ms).Within v → ∃ levels depth b members,
        Visits c h (c.limits.depth - 1) 1 a hint levels depth b .destructure ∧
        (h.inside b).shape = .object members ∧
        FirstRegistrations (c.nestedAt h levels depth) errorName members ms) ∧
    (∀ levels depth b s, (h.inside b).shape = .text s →
      (c.nestedAt h levels depth).value b .destructure = (c.nestedAt h levels depth).text s) ∧
    (∀ p : TypePath, errorName (String.ofList p.text) = String.ofList p.last.name.text ↔
      p.self? = none ∧ p.opening.name = p.last.name) ∧
    (∀ a hint accessor, accessor ∈ (c.capture h a hint).calls ↔ ∃ levels depth b,
      Visits c h (c.limits.depth - 1) 1 a hint levels depth b .destructure ∧
        Calls c h b accessor) ∧
    ∀ a hint, c.capture h.unshadowed a hint = c.capture h a hint := by
  refine ⟨?_, ?_, ?_, fun p => ?_, fun a hint accessor => ?_,
    fun a hint => c.capture_unshadowed h a hint⟩
  · intro levels depth a members shape unregistered
    obtain ⟨v, ok⟩ := exists_result lenient noPolicies h levels depth a .destructure
    have assembled := assembled_of_no_atom noPolicies (atom?_object shape unregistered) ok
    rw [shape] at assembled
    have isRecord : ∃ tag ms, v = .record tag ms := by
      cases assembled with
      | record => exact ⟨_, _, rfl⟩
    obtain ⟨tag, ms, rfl⟩ := isRecord
    refine ⟨⟨tag, ms, ok, assembled.firstRegistrations⟩, ?_⟩
    have noAtom := atom?_object shape unregistered
    rw [captureAt_of_no_atom noPolicies noAtom]
    exact calls_object lenient (nestedAt_silent lenient noPolicies levels depth) shape
  · intro a hint
    obtain ⟨v, ok⟩ := exists_result lenient noPolicies h (c.limits.depth - 1) 1 a hint
    refine ⟨v, ok, fun tag ms within => ?_⟩
    obtain ⟨levels, depth, b, members, visits, shape, assembled⟩ :=
      exists_visited_of_record_within noPolicies ok within
    exact ⟨levels, depth, b, members, visits, shape, assembled.firstRegistrations⟩
  · intro levels depth b s shape
    cases levels with
    | zero => rfl
    | succ levels =>
      refine captureAt_of_atom noPolicies ?_
      simp only [atom?, scalar?, shape]
      rfl
  · exact TypePath.name_eq_last_iff (p := p) rfl
  · exact mem_calls_iff_visits lenient noPolicies _ 1

/-! ### A gate with names that are registered twice -/

def gateMembers : List (Member Subject) :=
  [.property "Width" (.getter 1 (.ok (.plain "u8" (.text "80")))), .indexer "State",
   .property "State" (.getter 2 (.error ⟨"lock::Error<lock::Rusty>", "stuck"⟩)),
   .property "Width" (.getter 3 (.error ⟨"core::fmt::Error", "bent"⟩)),
   .property "State" .unsupported]

def gate : Subject := .plain "yard::Gate" (.object gateMembers)

def yard : Subject := .plain "yard::Yard" (.sequence [gate])

theorem gate_keeps_first_registrations :
    let c : Converter Subject := {}
    c.strict = false ∧ c.policies = [] ∧
      (Subject.rings.inside gate).shape = .object gateMembers ∧
      (∃ tag ms, (c.captureAt Subject.rings 8 2 gate .destructure).result = .ok (.record tag ms) ∧
        ms.map (·.1) = ["Width", "State"]) ∧
      (c.captureAt Subject.rings 8 2 gate .destructure).calls = [1, 2] ∧
      c.capture Subject.rings.unshadowed yard .destructure =
        c.capture Subject.rings yard .destructure ∧
      (c.capture Subject.rings yard .destructure).result.map (·.text .none none) =
        .ok ("[Gate \x7b Width: \"80\", " ++
          "State: \"The property accessor threw an exception: Error\" \x7d]") := by
  intro c
  have inside := Subject.inside_plain "yard::Gate" (.object gateMembers) nofun
  have shape : (Subject.rings.inside gate).shape = .object gateMembers := by rw [gate, inside]
  obtain ⟨objects, -, -, -, -, unshadowed⟩ :=
    records_keep_first_registrations (c := c) rfl rfl Subject.rings
  obtain ⟨⟨tag, ms, ok, first⟩, calls⟩ := objects 8 2 gate gateMembers shape rfl
  refine ⟨rfl, rfl, shape, ⟨tag, ms, ok, ?_⟩, calls.trans ?_, unshadowed yard .destructure, ?_⟩
  · rw [first.names]
    decide
  · decide +kernel
  · decide +kernel

/-! ### Errors whose types are named by another segment -/

section Errors

open TypePath

/-- A lock whose state cannot be read, for an error of some type. -/
def jammed (error : TypePath) : Subject :=
  .plain "yard::Lock"
    (.object [.property "State" (.getter 1 (.error ⟨String.ofList error.text, "stuck"⟩))])

def yardSegment : Segment := ⟨identifier ['y', 'a', 'r', 'd'] (by simp [separators]), none⟩

/-- A type that a function of a generic type declares. -/
def stuckInQueue : TypePath where
  before := [yardSegment,
    ⟨identifier ['Q', 'u', 'e', 'u', 'e'] (by simp [separators]), arguments ['T'] (by simp)⟩,
    ⟨identifier ['t', 'a', 'k', 'e'] (by simp [separators]), none⟩]
  last := ⟨identifier ['S', 't', 'u', 'c', 'k'] (by simp [separators]), none⟩

/-- A type that a function of a trait's implementation declares. -/
def stuckInGate : TypePath where
  self? := some (arguments ['y', 'a', 'r', 'd', ':', ':', 'G', 'a', 't', 'e', ' ', 'a', 's', ' ',
    'y', 'a', 'r', 'd', ':', ':', 'L', 'o', 'c', 'k'] (by simp))
  before := [⟨identifier ['o', 'p', 'e', 'n'] (by simp [separators]), none⟩]
  last := ⟨identifier ['S', 't', 'u', 'c', 'k'] (by simp [separators]), none⟩

/-- The text in place of a property names an error's type by the type around it, or not at all. -/
theorem error_named_by_other_segment :
    let shown (error : TypePath) :=
      (({} : Converter Subject).capture Subject.rings (jammed error) .destructure).result.map
        (·.text .none none)
    let lock (name : String) : Except CaptureError String :=
      .ok ("Lock \x7b State: \"The property accessor threw an exception: " ++ name ++ "\" \x7d")
    String.ofList stuckInQueue.text = "yard::Queue<T>::take::Stuck" ∧
      String.ofList stuckInQueue.last.name.text = "Stuck" ∧
      shown stuckInQueue = lock "Queue" ∧ shown stuckInQueue ≠ lock "Stuck" ∧
    String.ofList stuckInGate.text = "<yard::Gate as yard::Lock>::open::Stuck" ∧
      String.ofList stuckInGate.last.name.text = "Stuck" ∧
      shown stuckInGate = lock "" ∧ shown stuckInGate ≠ lock "Stuck" := by
  refine ⟨?_, ?_, ?_, ?_, ?_, ?_, ?_, ?_⟩
  all_goals decide +kernel

end Errors

end Converter

end StructuredLog.Capture

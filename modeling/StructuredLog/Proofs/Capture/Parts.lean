import StructuredLog.Capture.Subject
import StructuredLog.Proofs.Capture.Reach

/-!
What the capture of a value by its parts is put together from. Each branch of a result is the
capture of one part of the value, or a text in place of a property that cannot be read, so that a
law about results follows from the law about the parts and one case for each shape.
-/

namespace StructuredLog

/-- What a captured value is as the key of a dictionary. -/
def Value.asKey (v : Value) : Scalar := v.scalar?.getD (.string (v.text .none none))

namespace Capture

namespace Outcome

theorem result_bind_eq_ok {o : Outcome β} {f : β → Outcome γ} {c : γ} :
    (o.bind f).result = .ok c ↔ ∃ b, o.result = .ok b ∧ (f b).result = .ok c := by
  obtain ⟨log, calls, result⟩ := o
  cases result with
  | ok b => simp [Outcome.bind]
  | error e => simp [Outcome.bind]

theorem result_orLog (o : Outcome β) (ds : List Diagnostic) : (o.orLog ds).result = o.result := by
  unfold Outcome.orLog
  split <;> rfl

theorem forall₂_of_each {f : α → Outcome β} {as : List α} {bs : List β}
    (ok : (each f as).result = .ok bs) :
    List.Forall₂ (fun a b => a ∈ as ∧ (f a).result = .ok b) as bs := by
  rw [List.forall₂_and_left]
  refine ⟨fun _ mem => mem, ?_⟩
  induction as generalizing bs with
  | nil => cases ok; exact .nil
  | cons a as ih =>
    obtain ⟨b, head, rest⟩ := result_bind_eq_ok.mp ok
    obtain ⟨bs, tail, eq⟩ := result_bind_eq_ok.mp rest
    cases eq
    exact .cons head (ih tail)

end Outcome

/-- The properties that are read: of those that share a name, the first. -/
def readable : List (Member α) → List String → List (String × Source α)
  | [], _ => []
  | .indexer _ :: ms, taken => readable ms taken
  | .property name source :: ms, taken =>
    if taken.contains name then readable ms taken
    else (name, source) :: readable ms (name :: taken)

theorem first_of_mem_readable {members : List (Member α)} {taken : List String} {name : String}
    {source : Source α} (mem : (name, source) ∈ readable members taken) :
    First name source members ∧ name ∉ taken := by
  induction members generalizing taken with
  | nil => simp [readable] at mem
  | cons member members ih =>
    cases member with
    | indexer other => exact ⟨.afterIndexer (ih mem).1, (ih mem).2⟩
    | property other source' =>
      rw [readable] at mem
      by_cases shadowed : other ∈ taken
      · rw [if_pos (by simpa using shadowed)] at mem
        refine ⟨.afterProperty ?_ (ih mem).1, (ih mem).2⟩
        rintro rfl
        exact (ih mem).2 shadowed
      · rw [if_neg (by simpa using shadowed)] at mem
        rcases List.mem_cons.mp mem with eq | later
        · cases eq
          exact ⟨.here, shadowed⟩
        · obtain ⟨first, free⟩ := ih later
          rw [List.mem_cons, not_or] at free
          exact ⟨.afterProperty (Ne.symm free.1) first, free.2⟩

theorem mem_readable_iff {members : List (Member α)} {taken : List String} {name : String}
    {source : Source α} :
    (name, source) ∈ readable members taken ↔ First name source members ∧ name ∉ taken := by
  refine ⟨first_of_mem_readable, ?_⟩
  rintro ⟨first, free⟩
  induction first generalizing taken with
  | here =>
    rw [readable, if_neg (by simpa using free)]
    exact List.mem_cons_self
  | afterIndexer _ ih => exact ih free
  | @afterProperty other source' members ne _ ih =>
    rw [readable]
    split
    · exact ih free
    · exact List.mem_cons_of_mem _ (ih (by simp [ne.symm, free]))

namespace Converter

section Parts

variable (c : Converter α) (transforms : List (α → Option α)) (h : Host α) (a : α)

/-- A map that is captured by its entries, as a dictionary or as pairs. -/
structure IsMap (dictionary : Bool) (hint : Hint) (entries : List (α × α)) : Prop where
  byParts : ByParts c transforms h a hint
  shape : ∃ key standard, (h.inside a).shape = .map key standard entries ∧
    c.isDictionary (h.inside a) key standard = dictionary

variable (nested : Nested α)

/-- A part of a value has been captured as a branch of its result. -/
structure Branch (hint : Hint) (b : α) (hint' : Hint) (v : Value) : Prop where
  part : Part c transforms h nested a hint b hint'
  result : (nested.value b hint').result = .ok v

inductive EntryOf (hint : Hint) : α × α → Option (Scalar × Value) → Prop
  | nullKey {k w} : Branch c transforms h a nested hint k hint .null → EntryOf hint (k, w) none
  | entry {k w key v} :
      Branch c transforms h a nested hint k hint key → key ≠ .null →
      Branch c transforms h a nested hint w hint v →
      EntryOf hint (k, w) (some (key.asKey, v))

inductive PairOf (hint : Hint) : α × α → Value → Prop
  | pair {k w key v} :
      Branch c transforms h a nested hint k hint key →
      Branch c transforms h a nested hint w hint v →
      PairOf hint (k, w) (.sequence [key, v])

inductive MemberOf : String × Source α → String × Value → Prop
  | field {name b v} :
      Branch c transforms h a nested .destructure b .destructure v →
      MemberOf (name, .field b) (name, v)
  | getter {name accessor b v} :
      Branch c transforms h a nested .destructure b .destructure v →
      MemberOf (name, .getter accessor (.ok b)) (name, v)
  | failed {name accessor e v} :
      (nested.text ("The property accessor threw an exception: " ++
        (TypeDesc.mk e.typeName false false).name)).result = .ok v →
      MemberOf (name, .getter accessor (.error e)) (name, v)
  | unsupported {name v} :
      (nested.text "Accessing this property is not supported").result = .ok v →
      MemberOf (name, .unsupported) (name, v)

/-- What the parts of a value of some shape are put together to. -/
inductive Assembled : Shape α → Hint → Value → Prop
  | sequence {items hint vs} :
      List.Forall₂ (fun b v => Branch c transforms h a nested hint b hint v) (c.keep items) vs →
      Assembled (.sequence items) hint (.sequence vs)
  | tuple {items hint vs} :
      List.Forall₂ (fun b v => Branch c transforms h a nested hint b hint v) items vs →
      Assembled (.tuple items) hint (.sequence vs)
  | dictionary {key standard entries hint es} :
      IsMap c transforms h a true hint entries →
      List.Forall₂ (EntryOf c transforms h a nested hint) (c.keep entries) es →
      Assembled (.map key standard entries) hint (.dictionary (es.filterMap id))
  | pairs {key standard entries hint vs} :
      IsMap c transforms h a false hint entries →
      List.Forall₂ (PairOf c transforms h a nested hint) (c.keep entries) vs →
      Assembled (.map key standard entries) hint (.sequence vs)
  | record {members ms} :
      List.Forall₂ (MemberOf c transforms h a nested) (readable members []) ms →
      Assembled (.object members) .destructure
        (.record (if (h.inside a).type.isCompilerGenerated then none
          else some (h.inside a).type.name) ms)

end Parts

section Assembling

variable {c : Converter α} {transforms : List (α → Option α)} {h : Host α}
variable {nested : Nested α} {a : α} {hint : Hint} {strict : Bool}

theorem IsMap.isDictionary_eq {dictionary : Bool} {entries entries' : List (α × α)}
    {key : TypeDesc} {standard : Bool} (isMap : IsMap c transforms h a dictionary hint entries)
    (shape : (h.inside a).shape = .map key standard entries') :
    c.isDictionary (h.inside a) key standard = dictionary := by
  obtain ⟨key', standard', shape', eq⟩ := isMap.shape
  rw [shape] at shape'
  cases shape'
  exact eq

theorem memberOf_of_source {members : List (Member α)} {name : String} {source : Source α}
    {v : Value} (byParts : ByParts c transforms h a .destructure)
    (shape : (h.inside a).shape = .object members) (first : First name source members)
    (ok : ((c.withTransforms transforms strict).source nested (h.inside a).type.fullName name
      source).result = .ok v) :
    MemberOf c transforms h a nested (name, source) (name, v) := by
  cases source with
  | field b => exact .field ⟨.member byParts shape first rfl, ok⟩
  | getter accessor result =>
    cases result with
    | ok b => exact .getter ⟨.member byParts shape first rfl, ok⟩
    | error e =>
      cases strict with
      | false => exact .failed ok
      | true => contradiction
  | unsupported =>
    cases strict with
    | false => exact .unsupported ok
    | true => contradiction

theorem forall₂_of_members {typeName : String} {members : List (Member α)} {taken : List String}
    {ms : List (String × Value)} (ok : (c.members nested typeName members taken).result = .ok ms) :
    List.Forall₂ (fun p m => m.1 = p.1 ∧
      (c.source nested typeName p.1 p.2).result = .ok m.2) (readable members taken) ms := by
  induction members generalizing taken ms with
  | nil => cases ok; exact .nil
  | cons member members ih =>
    cases member with
    | indexer other =>
      obtain ⟨_, _, rest⟩ := Outcome.result_bind_eq_ok.mp ok
      exact ih rest
    | property name source =>
      rw [Converter.members] at ok
      rw [readable]
      split at ok
      · next shadowed =>
        rw [if_pos shadowed]
        exact ih ok
      · next free =>
        rw [if_neg free]
        obtain ⟨v, supplied, rest⟩ := Outcome.result_bind_eq_ok.mp ok
        obtain ⟨ms', later, eq⟩ := Outcome.result_bind_eq_ok.mp rest
        cases eq
        rw [Outcome.result_orLog] at supplied
        exact .cons ⟨rfl, supplied⟩ (ih later)

theorem entryOf_of_entry {key : TypeDesc} {standard : Bool} {entries : List (α × α)} {e : α × α}
    {kept : Option (Scalar × Value)} (byParts : ByParts c transforms h a hint)
    (shape : (h.inside a).shape = .map key standard entries) (mem : e ∈ c.keep entries)
    (ok : (entry nested hint e).result = .ok kept) :
    EntryOf c transforms h a nested hint e kept := by
  obtain ⟨k, w⟩ := e
  obtain ⟨captured, ofKey, rest⟩ := Outcome.result_bind_eq_ok.mp ok
  have keyBranch : Branch c transforms h a nested hint k hint captured :=
    ⟨.key byParts shape mem, ofKey⟩
  dsimp only at rest
  split at rest
  · cases rest
    exact .nullKey keyBranch
  · next notNull =>
    obtain ⟨v, ofValue, eq⟩ := Outcome.result_bind_eq_ok.mp rest
    cases eq
    refine .entry keyBranch notNull ⟨.entry byParts shape mem fun _ null => ?_, ofValue⟩
    rw [ofKey] at null
    exact notNull (Except.ok.inj null)

theorem pairOf_of_pair {key : TypeDesc} {standard : Bool} {entries : List (α × α)} {e : α × α}
    {v : Value} (byParts : ByParts c transforms h a hint)
    (shape : (h.inside a).shape = .map key standard entries)
    (noDictionary : c.isDictionary (h.inside a) key standard = false) (mem : e ∈ c.keep entries)
    (ok : (pair nested hint e).result = .ok v) : PairOf c transforms h a nested hint e v := by
  obtain ⟨k, w⟩ := e
  obtain ⟨captured, ofKey, rest⟩ := Outcome.result_bind_eq_ok.mp ok
  obtain ⟨v', ofValue, eq⟩ := Outcome.result_bind_eq_ok.mp rest
  cases eq
  refine .pair ⟨.key byParts shape mem, ofKey⟩ ⟨.entry byParts shape mem ?_, ofValue⟩
  simp [noDictionary]

/-- A value without parts is captured as a scalar, whatever the depth. -/
def alone? (l : Look α) (hint : Hint) : Option Scalar :=
  match l.shape with
  | .sequence _ | .tuple _ | .map _ _ _ => none
  | .object _ => if hint = .destructure then none else some (.string l.text)
  | .typeInfo => some (if hint = .destructure then .other l.text else .string l.text)
  | _ => some (.string l.text)

theorem parts_of_alone {s : Scalar} (alone : alone? (h.inside a) hint = some s) :
    c.parts nested (h.inside a) hint = .pure (.scalar s) := by
  unfold alone? at alone
  unfold Converter.parts
  cases shape : (h.inside a).shape <;> simp_all

/-- A value with parts is captured as what its parts are put together to. -/
theorem assembled_of_parts {v : Value} (byParts : ByParts c transforms h a hint)
    (hasParts : alone? (h.inside a) hint = none)
    (ok : ((c.withTransforms transforms strict).parts nested (h.inside a) hint).result = .ok v) :
    Assembled c transforms h a nested (h.inside a).shape hint v := by
  unfold Converter.parts at ok
  unfold alone? at hasParts
  cases shape : (h.inside a).shape with
  | sequence items =>
    rw [shape] at ok
    obtain ⟨vs, all, eq⟩ := Outcome.result_bind_eq_ok.mp ok
    cases eq
    refine .sequence ((Outcome.forall₂_of_each all).imp fun b v branch => ?_)
    exact ⟨.item byParts shape branch.1, branch.2⟩
  | tuple items =>
    rw [shape] at ok
    obtain ⟨vs, all, eq⟩ := Outcome.result_bind_eq_ok.mp ok
    cases eq
    refine .tuple ((Outcome.forall₂_of_each all).imp fun b v branch => ?_)
    exact ⟨.component byParts shape branch.1, branch.2⟩
  | map key standard entries =>
    rw [shape] at ok
    dsimp only at ok
    split at ok
    · next dictionary =>
      obtain ⟨es, all, eq⟩ := Outcome.result_bind_eq_ok.mp ok
      cases eq
      have isMap : IsMap c transforms h a true hint entries :=
        ⟨byParts, key, standard, shape, dictionary⟩
      refine .dictionary isMap ((Outcome.forall₂_of_each all).imp fun e kept of => ?_)
      exact entryOf_of_entry byParts shape of.1 of.2
    · next noDictionary =>
      have noDictionary := Bool.eq_false_of_not_eq_true noDictionary
      obtain ⟨vs, all, eq⟩ := Outcome.result_bind_eq_ok.mp ok
      cases eq
      have isMap : IsMap c transforms h a false hint entries :=
        ⟨byParts, key, standard, shape, noDictionary⟩
      refine .pairs isMap ((Outcome.forall₂_of_each all).imp fun e v of => ?_)
      exact pairOf_of_pair byParts shape noDictionary of.1 of.2
  | object members =>
    rw [shape] at ok hasParts
    dsimp only at ok hasParts
    split at ok
    · next destructure =>
      subst destructure
      obtain ⟨ms, all, eq⟩ := Outcome.result_bind_eq_ok.mp ok
      cases eq
      refine .record ?_
      have sources := (List.forall₂_and_left (readable members []) ms).mpr
        ⟨fun p (mem : p ∈ readable members []) => mem, forall₂_of_members all⟩
      refine sources.imp fun p m of => ?_
      obtain ⟨name, source⟩ := p
      obtain ⟨name', v⟩ := m
      obtain ⟨mem, rfl, supplied⟩ := of
      exact memberOf_of_source byParts shape (first_of_mem_readable mem).1 supplied
    · next other => simp [other] at hasParts
  | _ => simp [shape] at hasParts

end Assembling

theorem keep_sublist (c : Converter α) (items : List β) : (c.keep items).Sublist items := by
  unfold keep
  split
  · exact List.Sublist.refl _
  · exact List.take_sublist _ _

/-- How the parts of a value at some depth are captured, with levels left for them. -/
def partsAt (c : Converter α) (h : Host α) (levels depth : Nat) : Nested α :=
  ⟨depth, c.captureAt h levels (depth + 1), fun s => .pure (.scalar (.string (c.truncate s)))⟩

theorem captureAt_succ (c : Converter α) (h : Host α) (levels depth : Nat) :
    c.captureAt h (levels + 1) depth = c.step h (c.partsAt h levels depth) := rfl

/-- How parts are captured with some levels left below a value. -/
def nestedAt (c : Converter α) (h : Host α) : (levels depth : Nat) → Nested α
  | 0, depth => .cutOff depth
  | levels + 1, depth => c.partsAt h levels depth

theorem captureAt_eq_step (c : Converter α) (h : Host α) (levels depth : Nat) :
    c.captureAt h levels depth = c.step h (c.nestedAt h levels depth) := by
  cases levels <;> rfl

/-- The scalar that a value is captured as without a look at parts of it. -/
def atom? (c : Converter α) (l : Look α) (hint : Hint) : Option Scalar :=
  (c.scalar? l hint).or (alone? l hint)

section WithoutPolicies

variable {c : Converter α} {h : Host α} {a : α} {hint : Hint} {levels depth : Nat}

theorem captureAt_of_atom (noPolicies : c.policies = []) {s : Scalar}
    (atom : c.atom? (h.inside a) hint = some s) :
    c.captureAt h levels depth a hint = .pure (.scalar s) := by
  rw [captureAt_eq_step, ← withTransforms_nil noPolicies]
  obtain scalar | ⟨noScalar, alone⟩ := Option.or_eq_some_iff.mp atom
  · exact step_of_scalar _ _ scalar
  · have byParts : ByParts c [] h a hint := ⟨noScalar, fun _ => rfl⟩
    rw [step_of_byParts _ _ byParts]
    exact parts_of_alone alone

theorem captureAt_of_no_atom (noPolicies : c.policies = [])
    (noAtom : c.atom? (h.inside a) hint = none) :
    c.captureAt h levels depth a hint =
      c.parts (c.nestedAt h levels depth) (h.inside a) hint := by
  obtain ⟨noScalar, -⟩ := Option.or_eq_none_iff.mp noAtom
  have byParts : ByParts c [] h a hint := ⟨noScalar, fun _ => rfl⟩
  have step := step_of_byParts (c.nestedAt h levels depth) c.strict byParts
  rw [withTransforms_nil noPolicies] at step
  rw [captureAt_eq_step, step]

/-- All other values are put together from their parts. -/
theorem assembled_of_no_atom (noPolicies : c.policies = [])
    (noAtom : c.atom? (h.inside a) hint = none) {v : Value}
    (ok : (c.captureAt h levels depth a hint).result = .ok v) :
    Assembled c [] h a (c.nestedAt h levels depth) (h.inside a).shape hint v := by
  obtain ⟨noScalar, notAlone⟩ := Option.or_eq_none_iff.mp noAtom
  have parts : ((c.withTransforms [] c.strict).parts (c.nestedAt h levels depth) (h.inside a)
      hint).result = .ok v := by
    rw [withTransforms_nil noPolicies, ← captureAt_of_no_atom noPolicies noAtom]
    exact ok
  exact assembled_of_parts ⟨noScalar, fun _ => rfl⟩ notAlone parts

end WithoutPolicies

end Converter

namespace Host

section Looks

variable (f : Look α → Look α)

/-- The same values, each of which shows itself in another way. Wrappers stay what they are. -/
def withLooks (h : Host α) (wrappers : ∀ {l b}, (f l).shape = .wrapper b ↔ l.shape = .wrapper b) :
    Host α where
  look a := f (h.look a)
  wraps := h.wraps
  wraps_lt wrapper := h.wraps_lt (wrappers.mp wrapper)

theorem unwrap_withLooks (h : Host α)
    (wrappers : ∀ {l b}, (f l).shape = .wrapper b ↔ l.shape = .wrapper b) (a : α) :
    (h.withLooks f wrappers).unwrap a = h.unwrap a := by
  induction n : h.wraps a using Nat.strongRecOn generalizing a with
  | _ n ih =>
    subst n
    by_cases wrapper : ∃ b, (h.look a).shape = .wrapper b
    · obtain ⟨b, shape⟩ := wrapper
      have shape' : ((h.withLooks f wrappers).look a).shape = .wrapper b := wrappers.mpr shape
      rw [unwrap_of_wrapper _ shape', unwrap_of_wrapper _ shape]
      exact ih _ (h.wraps_lt shape) b rfl
    · rw [not_exists] at wrapper
      rw [unwrap_of_not_wrapper _ wrapper, unwrap_of_not_wrapper]
      exact fun b shape => wrapper b (wrappers.mp shape)

theorem inside_withLooks (h : Host α)
    (wrappers : ∀ {l b}, (f l).shape = .wrapper b ↔ l.shape = .wrapper b) (a : α) :
    (h.withLooks f wrappers).inside a = f (h.inside a) := by
  rw [inside, unwrap_withLooks]
  rfl

end Looks

end Host

/-! ### Values that are written out -/

namespace Subject

theorem host_inside_plain (objects : Int → Linked) (typeName : String) (shape : Shape Subject)
    (noWrapper : ∀ b, shape ≠ .wrapper b) :
    (host objects).inside (.plain typeName shape) =
      ⟨shape, ⟨typeName, false, false⟩, typeName, none⟩ := by
  rw [Host.inside, Host.unwrap_of_not_wrapper]
  · rfl
  · exact noWrapper

/-- Each link leads to an object whose next object is itself. -/
def rings : Host Subject :=
  host fun n => ⟨⟨"Ring", false, false⟩, "Ring", none, [.property "Next" (.field (.link n))]⟩

theorem inside_plain (typeName : String) (shape : Shape Subject)
    (noWrapper : ∀ b, shape ≠ .wrapper b) :
    rings.inside (.plain typeName shape) =
      ⟨shape, ⟨typeName, false, false⟩, typeName, none⟩ :=
  host_inside_plain _ typeName shape noWrapper

theorem inside_link (n : Int) :
    rings.inside (.link n) = ⟨.object [.property "Next" (.field (.link n))], ⟨"Ring", false, false⟩,
      "Ring", none⟩ := by
  rw [Host.inside, Host.unwrap_of_not_wrapper]
  · rfl
  · nofun

end Subject

end Capture

end StructuredLog

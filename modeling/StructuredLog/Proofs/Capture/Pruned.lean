import StructuredLog.Proofs.Capture.DepthLimit
import StructuredLog.Proofs.Capture.Strict

/-!
One value captured under two depth limits. Below the smaller limit branches are null, and all else
is the same, but for dictionaries whose keys the limit reaches: at the last level every key is null,
which drops the entries, and a key that is no scalar is the text of what is left of it.
-/

namespace StructuredLog

mutual

/-- The first value is the second one with branches made null. Where keys are cut as well, a
dictionary can lose its entries, and a key can be the text of a tree with branches made null. -/
inductive Value.Pruned (keysCut : Prop) : Value → Value → Prop
  | null {v} : Value.Pruned keysCut .null v
  | scalar {s} : Value.Pruned keysCut (.scalar s) (.scalar s)
  | sequence {vs vs'} :
      List.Forall₂ (Value.Pruned keysCut) vs vs' →
      Value.Pruned keysCut (.sequence vs) (.sequence vs')
  | record {tag ms ms'} :
      List.Forall₂ (PrunedMember keysCut) ms ms' →
      Value.Pruned keysCut (.record tag ms) (.record tag ms')
  | dictionary {es es'} :
      List.Forall₂ (PrunedEntry keysCut) es es' →
      Value.Pruned keysCut (.dictionary es) (.dictionary es')
  | emptied {es'} : keysCut → Value.Pruned keysCut (.dictionary []) (.dictionary es')

inductive PrunedMember (keysCut : Prop) : String × Value → String × Value → Prop
  | mk {name v v'} : Value.Pruned keysCut v v' → PrunedMember keysCut (name, v) (name, v')

inductive PrunedEntry (keysCut : Prop) : Scalar × Value → Scalar × Value → Prop
  | sameKey {key v v'} : Value.Pruned keysCut v v' → PrunedEntry keysCut (key, v) (key, v')
  | textKey {key key' v v'} :
      keysCut → Value.Pruned keysCut key key' → Value.Pruned keysCut v v' →
      PrunedEntry keysCut (key.asKey, v) (key'.asKey, v')

end

namespace Capture.Converter

theorem forall₂_of_common {R : α → β → Prop} {S : α → γ → Prop} {as : List α} {bs : List β}
    {cs : List γ} (left : List.Forall₂ R as bs) (right : List.Forall₂ S as cs) :
    List.Forall₂ (fun b c => ∃ a, R a b ∧ S a c) bs cs := by
  induction left generalizing cs with
  | nil =>
    cases right
    exact .nil
  | cons head _ ih =>
    cases right with
    | cons head' tail' => exact .cons ⟨_, head, head'⟩ (ih tail')

/-- The limit reaches a key of a dictionary: one that is not null at the last level, or one that is
no scalar above it. -/
inductive CutsKeys (c : Converter α) (h : Host α) : (levels depth : Nat) → α → Hint → Prop
  | lastLevel {depth a hint entries k w} :
      IsMap c [] h a true hint entries → (k, w) ∈ c.keep entries →
      c.scalar? (h.inside k) hint ≠ some .null → CutsKeys c h 0 depth a hint
  | key {levels depth a hint entries k w} :
      IsMap c [] h a true hint entries → (k, w) ∈ c.keep entries →
      c.scalar? (h.inside k) hint = none → CutsKeys c h (levels + 1) depth a hint
  | deeper {levels depth a hint b hint'} :
      Part c [] h (below c [] h levels depth) a hint b hint' →
      CutsKeys c h levels (depth + 1) b hint' → CutsKeys c h (levels + 1) depth a hint

section Step

variable {c : Converter α} {h : Host α} {shallow deep : Nested α} {a : α} {hint : Hint}
variable {keysCut : Prop} {v v' : Value}

theorem alone?_ne_null (l : Look α) (hint : Hint) : alone? l hint ≠ some .null := by
  unfold alone?
  cases l.shape with
  | object members => by_cases destructure : hint = .destructure <;> simp [destructure]
  | typeInfo => by_cases destructure : hint = .destructure <;> simp [destructure]
  | _ => simp

theorem below_of_scalar {levels depth : Nat} {s : Scalar}
    (scalar : c.scalar? (h.inside a) hint = some s) :
    (below c [] h levels depth).value a hint = .pure (.scalar s) := by
  cases levels <;> exact step_of_scalar _ false scalar

theorem step_ne_null (noScalar : c.scalar? (h.inside a) hint = none)
    (ok : ((c.withTransforms [] false).step h shallow a hint).result = .ok v) : v ≠ .null := by
  have byParts : ByParts c [] h a hint := ⟨noScalar, fun _ => rfl⟩
  rw [step_of_byParts shallow false byParts] at ok
  cases alone : alone? (h.inside a) hint with
  | some s =>
    rw [parts_of_alone alone] at ok
    cases ok
    rintro ⟨⟩
    exact alone?_ne_null _ _ alone
  | none =>
    have assembled := assembled_of_parts byParts alone ok
    generalize (h.inside a).shape = shape at assembled
    cases assembled <;> nofun

/-- Only what shows itself as null is captured as null. -/
theorem below_ne_null {levels depth : Nat} (noScalar : c.scalar? (h.inside a) hint = none)
    (ok : ((below c [] h levels depth).value a hint).result = .ok v) : v ≠ .null := by
  cases levels <;> exact step_ne_null noScalar ok

theorem IsMap.dictionary_eq {transforms : List (α → Option α)} {first second : Bool}
    {entries entries' : List (α × α)} (one : IsMap c transforms h a first hint entries)
    (two : IsMap c transforms h a second hint entries') : first = second := by
  obtain ⟨key, standard, shape, eq⟩ := one.shape
  exact eq.symm.trans (two.isDictionary_eq shape)

/-- The parts of a value are captured under two limits. -/
structure PartsPruned (c : Converter α) (h : Host α) (keysCut : Prop) (a : α) (hint : Hint)
    (shallow deep : Nested α) : Prop where
  value : ∀ {b hint' w w'}, Part c [] h shallow a hint b hint' →
    (shallow.value b hint').result = .ok w → (deep.value b hint').result = .ok w' →
    w.Pruned keysCut w'
  text : ∀ {s w w'}, (shallow.text s).result = .ok w → (deep.text s).result = .ok w' →
    w.Pruned keysCut w'
  dictionary : ∀ {entries es es'}, IsMap c [] h a true hint entries →
    List.Forall₂ (EntryOf c [] h a shallow hint) (c.keep entries) es →
    List.Forall₂ (EntryOf c [] h a deep hint) (c.keep entries) es' →
    (Value.dictionary (es.filterMap id)).Pruned keysCut (.dictionary (es'.filterMap id))

namespace PartsPruned

theorem branch (parts : PartsPruned c h keysCut a hint shallow deep) {b : α} {hint' : Hint}
    {w w' : Value} (one : Branch c [] h a shallow hint b hint' w)
    (two : Branch c [] h a deep hint b hint' w') : w.Pruned keysCut w' :=
  parts.value one.part one.result two.result

theorem member (parts : PartsPruned c h keysCut a .destructure shallow deep)
    {p : String × Source α} {m m' : String × Value}
    (one : MemberOf c [] h a shallow p m) (two : MemberOf c [] h a deep p m') :
    PrunedMember keysCut m m' := by
  cases one with
  | field branch =>
    cases two with
    | field branch' => exact .mk (parts.branch branch branch')
  | getter branch =>
    cases two with
    | getter branch' => exact .mk (parts.branch branch branch')
  | failed text =>
    cases two with
    | failed text' => exact .mk (parts.text text text')
  | unsupported text =>
    cases two with
    | unsupported text' => exact .mk (parts.text text text')

variable (parts : PartsPruned c h keysCut a hint shallow deep)
include parts

theorem sequence {items : List α} {vs vs' : List Value}
    (all : List.Forall₂ (fun b v => Branch c [] h a shallow hint b hint v) items vs)
    (all' : List.Forall₂ (fun b v => Branch c [] h a deep hint b hint v) items vs') :
    (Value.sequence vs).Pruned keysCut (.sequence vs') := by
  apply Value.Pruned.sequence
  refine (forall₂_of_common all all').imp ?_
  rintro w w' ⟨b, one, two⟩
  exact parts.branch one two

theorem assembled {shape : Shape α} (one : Assembled c [] h a shallow shape hint v)
    (two : Assembled c [] h a deep shape hint v') : v.Pruned keysCut v' := by
  cases one with
  | sequence all =>
    cases two with
    | sequence all' => exact parts.sequence all all'
  | tuple all =>
    cases two with
    | tuple all' => exact parts.sequence all all'
  | dictionary isMap all =>
    cases two with
    | dictionary _ all' => exact parts.dictionary isMap all all'
    | pairs isPairs _ => cases isMap.dictionary_eq isPairs
  | pairs isPairs all =>
    cases two with
    | dictionary isMap _ => cases isMap.dictionary_eq isPairs
    | pairs _ all' =>
      apply Value.Pruned.sequence
      refine (forall₂_of_common all all').imp ?_
      rintro w w' ⟨e, ⟨ofKey, ofValue⟩, ⟨ofKey', ofValue'⟩⟩
      apply Value.Pruned.sequence
      exact .cons (parts.branch ofKey ofKey') (.cons (parts.branch ofValue ofValue') .nil)
  | record all =>
    cases two with
    | record all' =>
      apply Value.Pruned.record
      refine (forall₂_of_common all all').imp ?_
      rintro m m' ⟨p, one, two⟩
      exact parts.member one two

theorem step (ok : ((c.withTransforms [] false).step h shallow a hint).result = .ok v)
    (ok' : ((c.withTransforms [] false).step h deep a hint).result = .ok v') :
    v.Pruned keysCut v' := by
  obtain ⟨s, scalar⟩ | ⟨_, _, _, substitute⟩ | byParts :=
    scalar_or_substitute_or_byParts c [] h a hint
  · rw [step_of_scalar _ false scalar] at ok ok'
    cases ok
    cases ok'
    exact .scalar
  · contradiction
  · rw [step_of_byParts _ false byParts] at ok ok'
    cases alone : alone? (h.inside a) hint with
    | some s =>
      rw [parts_of_alone alone] at ok ok'
      cases ok
      cases ok'
      exact .scalar
    | none =>
      exact parts.assembled (assembled_of_parts byParts alone ok)
        (assembled_of_parts byParts alone ok')

end PartsPruned

end Step

/-! ### Dictionaries under two limits -/

section Dictionaries

variable {c : Converter α} {h : Host α} {a : α} {hint : Hint} {entries : List (α × α)}
variable {es es' : List (Option (Scalar × Value))} {keysCut : Prop}

theorem filterMap_eq_nil_of_null_keys {nested : Nested α}
    (all : List.Forall₂ (EntryOf c [] h a nested hint) entries es)
    (null : ∀ e ∈ entries, ∀ key, (nested.value e.1 hint).result = .ok key → key = .null) :
    es.filterMap id = [] := by
  induction all with
  | nil => rfl
  | cons head _ ih =>
    rw [List.forall_mem_cons] at null
    cases head with
    | nullKey ofKey => exact ih null.2
    | entry ofKey notNull ofValue => exact absurd (null.1 _ ofKey.result) notNull

theorem pruned_of_lastLevel {depth : Nat} {deep : Nested α}
    (all : List.Forall₂ (EntryOf c [] h a (.cutOff depth) hint) (c.keep entries) es)
    (all' : List.Forall₂ (EntryOf c [] h a deep hint) (c.keep entries) es')
    (nulls : ∀ k key, c.scalar? (h.inside k) hint = some .null →
      (deep.value k hint).result = .ok key → key = .null)
    (cuts : ∀ k w, (k, w) ∈ c.keep entries → c.scalar? (h.inside k) hint ≠ some .null → keysCut) :
    (Value.dictionary (es.filterMap id)).Pruned keysCut (.dictionary (es'.filterMap id)) := by
  rw [filterMap_eq_nil_of_null_keys all fun e mem key ok => (Except.ok.inj ok).symm]
  by_cases kept : ∃ e ∈ c.keep entries, c.scalar? (h.inside e.1) hint ≠ some .null
  · obtain ⟨⟨k, w⟩, mem, notNull⟩ := kept
    exact .emptied (cuts k w mem notNull)
  · rw [filterMap_eq_nil_of_null_keys all']
    · exact .dictionary .nil
    · intro e mem key ok
      push Not at kept
      exact nulls e.1 key (kept e mem) ok

/-- Above the last level, two captures of one entry drop it both or have both the same key, unless
the limit reaches the key. -/
theorem pruned_of_entry {levels levels' depth depth' : Nat} {e : α × α}
    {kept kept' : Option (Scalar × Value)}
    (one : EntryOf c [] h a (below c [] h levels depth) hint e kept)
    (two : EntryOf c [] h a (below c [] h levels' depth') hint e kept')
    (branches : ∀ {b hint' w w'},
      Branch c [] h a (below c [] h levels depth) hint b hint' w →
      Branch c [] h a (below c [] h levels' depth') hint b hint' w' → w.Pruned keysCut w')
    (cuts : c.scalar? (h.inside e.1) hint = none → keysCut) :
    Option.Rel (PrunedEntry keysCut) kept kept' := by
  obtain ⟨k, w⟩ := e
  cases scalar : c.scalar? (h.inside k) hint with
  | some s =>
    have same {levels depth : Nat} {key : Value}
        (ofKey : Branch c [] h a (below c [] h levels depth) hint k hint key) :
        key = .scalar s := by
      have ok := ofKey.result
      rw [below_of_scalar scalar] at ok
      exact (Except.ok.inj ok).symm
    cases one with
    | nullKey ofKey =>
      cases two with
      | nullKey ofKey' => exact .none
      | entry ofKey' notNull ofValue => exact absurd ((same ofKey').trans (same ofKey).symm) notNull
    | entry ofKey notNull ofValue =>
      cases two with
      | nullKey ofKey' => exact absurd ((same ofKey).trans (same ofKey').symm) notNull
      | entry ofKey' _ ofValue' =>
        rw [same ofKey, same ofKey']
        exact .some (.sameKey (branches ofValue ofValue'))
  | none =>
    cases one with
    | nullKey ofKey => exact absurd rfl (below_ne_null scalar ofKey.result)
    | entry ofKey notNull ofValue =>
      cases two with
      | nullKey ofKey' => exact absurd rfl (below_ne_null scalar ofKey'.result)
      | entry ofKey' _ ofValue' =>
        exact .some (.textKey (cuts scalar) (branches ofKey ofKey') (branches ofValue ofValue'))

theorem pruned_of_entries {levels levels' depth depth' : Nat}
    (all : List.Forall₂ (EntryOf c [] h a (below c [] h levels depth) hint) (c.keep entries) es)
    (all' : List.Forall₂ (EntryOf c [] h a (below c [] h levels' depth') hint)
      (c.keep entries) es')
    (branches : ∀ {b hint' w w'},
      Branch c [] h a (below c [] h levels depth) hint b hint' w →
      Branch c [] h a (below c [] h levels' depth') hint b hint' w' → w.Pruned keysCut w')
    (cuts : ∀ k w, (k, w) ∈ c.keep entries → c.scalar? (h.inside k) hint = none → keysCut) :
    (Value.dictionary (es.filterMap id)).Pruned keysCut (.dictionary (es'.filterMap id)) := by
  have entries := (List.forall₂_and_left (c.keep entries) es).mpr ⟨fun e mem => mem, all⟩
  have related : List.Forall₂ (Option.Rel (PrunedEntry keysCut)) es es' := by
    refine (forall₂_of_common entries all').imp ?_
    rintro kept kept' ⟨e, ⟨mem, one⟩, two⟩
    exact pruned_of_entry one two branches (cuts e.1 e.2 mem)
  exact .dictionary (List.rel_filterMap (fun _ _ rel => rel) related)

theorem partsPruned_cutOff {depth : Nat} {deep : Nested α}
    (nulls : ∀ k key, c.scalar? (h.inside k) hint = some .null →
      (deep.value k hint).result = .ok key → key = .null)
    (cuts : CutsKeys c h 0 depth a hint → keysCut) :
    PartsPruned c h keysCut a hint (.cutOff depth) deep where
  value := by
    rintro b hint' w w' - ⟨⟩ -
    exact .null
  text := by
    rintro s w w' ⟨⟩ -
    exact .null
  dictionary isMap all all' :=
    pruned_of_lastLevel all all' nulls fun _ _ mem notNull => cuts (.lastLevel isMap mem notNull)

theorem partsPruned_below {levels levels' depth : Nat}
    (value : ∀ {b hint' w w'}, Part c [] h (below c [] h levels depth) a hint b hint' →
      ((below c [] h levels depth).value b hint').result = .ok w →
      ((below c [] h levels' depth).value b hint').result = .ok w' → w.Pruned keysCut w')
    (cuts : CutsKeys c h (levels + 1) depth a hint → keysCut) :
    PartsPruned c h keysCut a hint (below c [] h levels depth) (below c [] h levels' depth) where
  value := value
  text := by
    rintro s w w' ⟨⟩ ⟨⟩
    exact .scalar
  dictionary isMap all all' :=
    pruned_of_entries all all' (fun one two => value one.part one.result two.result)
      fun _ _ mem noScalar => cuts (.key isMap mem noScalar)

end Dictionaries

theorem captureAt_pruned {c : Converter α} {h : Host α} {keysCut : Prop} {levels levels' : Nat}
    (le : levels ≤ levels') {depth : Nat} {a : α} {hint : Hint} {v v' : Value}
    (cuts : CutsKeys c h levels depth a hint → keysCut)
    (ok : ((c.withTransforms [] false).captureAt h levels depth a hint).result = .ok v)
    (ok' : ((c.withTransforms [] false).captureAt h levels' depth a hint).result = .ok v') :
    v.Pruned keysCut v' := by
  induction levels generalizing levels' depth a hint v v' with
  | zero =>
    cases levels' with
    | zero =>
      refine (partsPruned_cutOff ?_ cuts).step ok ok'
      rintro k key - ⟨⟩
      rfl
    | succ levels' =>
      have nulls (k : α) (key : Value) (null : c.scalar? (h.inside k) hint = some .null)
          (ok : ((below c [] h levels' depth).value k hint).result = .ok key) : key = .null := by
        rw [below_of_scalar null] at ok
        exact (Except.ok.inj ok).symm
      exact (partsPruned_cutOff nulls cuts).step ok ok'
  | succ levels ih =>
    obtain ⟨levels', rfl⟩ := Nat.exists_eq_add_one_of_ne_zero (by omega : levels' ≠ 0)
    refine (partsPruned_below (fun part ok ok' => ?_) cuts).step ok ok'
    exact ih (Nat.le_of_succ_le_succ le) (fun cut => cuts (.deeper part cut)) ok ok'

/-- Under a smaller depth limit the capture of a value is the same one with branches made null.
Dictionaries can differ as well, but only if the smaller limit reaches a key of one. -/
theorem capture_pruned (c : Converter α) (h : Host α) (a : α) (hint : Hint) {d d' : Nat}
    (le : d ≤ d') :
    let lenient := c.withTransforms [] false
    ∃ v v', ((lenient.withDepth d).capture h a hint).result = .ok v ∧
      ((lenient.withDepth d').capture h a hint).result = .ok v' ∧
      v.Pruned (CutsKeys c h (d - 1) 1 a hint) v' := by
  intro lenient
  obtain ⟨v, ok⟩ := (captureAt_agrees c [] h (d - 1) 1 a hint).total
  obtain ⟨v', ok'⟩ := (captureAt_agrees c [] h (d' - 1) 1 a hint).total
  rw [capture_withDepth, capture_withDepth]
  exact ⟨v, v', ok, ok', captureAt_pruned (Nat.sub_le_sub_right le 1) id ok ok'⟩

/-! ### A dictionary at the last level -/

def flagsShape : Shape Subject :=
  .map ⟨"alloc::string::String", false, false⟩ true
    [(.plain "alloc::string::String" (.text "a"),
      .plain "bool" (.scalar (.bool true)))]

def flags : Subject :=
  .plain "alloc::collections::btree::map::BTreeMap<alloc::string::String, bool>" flagsShape

def captureFlags (depth : Nat) : Outcome Value :=
  (({} : Converter Subject).withDepth depth).capture Subject.rings flags .default

theorem captureFlags_one : (captureFlags 1).result = .ok (.dictionary []) := by
  rw [captureFlags, capture_withDepth]
  change (step _ Subject.rings (.cutOff 1) flags .default).result = _
  unfold Converter.step flags
  rw [Subject.inside_plain _ flagsShape nofun]
  rfl

theorem captureFlags_two :
    (captureFlags 2).result = .ok (.dictionary [(.string "a", .scalar (.bool true))]) := by
  have key := Subject.inside_plain "alloc::string::String" (.text "a") nofun
  have value := Subject.inside_plain "bool" (.scalar (.bool true)) nofun
  rw [captureFlags, capture_withDepth]
  change (step _ Subject.rings (partsAt _ _ 0 1) flags .default).result = _
  unfold Converter.step flags
  rw [Subject.inside_plain _ flagsShape nofun]
  simp only [partsAt, captureAt]
  unfold Converter.step
  -- The only entry, between the parts of the map and the dictionary made of them.
  change (Outcome.bind (Outcome.bind _ _) _).result = _
  simp only [key, value, entry]
  rfl

theorem captureFlags_pruned :
    1 ≤ 2 ∧ ∃ v v', (captureFlags 1).result = .ok v ∧ (captureFlags 2).result = .ok v' ∧
      v.Pruned (CutsKeys {} Subject.rings 0 1 flags .default) v' :=
  ⟨by decide, capture_pruned {} Subject.rings flags .default (by decide)⟩

/-- The entry is not kept with a null for its value: it is lost with its key. -/
theorem captureFlags_not_pruned :
    ∃ v v', (captureFlags 1).result = .ok v ∧ (captureFlags 2).result = .ok v' ∧
      ¬v.Pruned False v' := by
  refine ⟨_, _, captureFlags_one, captureFlags_two, fun pruned => ?_⟩
  cases pruned with
  | dictionary entries => contradiction
  | emptied cut => exact cut

end Capture.Converter

end StructuredLog

import StructuredLog.Proofs.Capture.Parts
import StructuredLog.Proofs.Capture.Strict

/-!
How deeply a captured value is nested. Each level of the capture makes one level of the result,
except that a map which is no dictionary makes two: a sequence, and a pair for each entry in it. So
the depth limit bounds the nesting up to the number of such maps that lie inside one another.
-/

namespace StructuredLog

mutual

/-- How many containers lie inside one another in a value. -/
def Value.nesting : Value → Nat
  | .scalar _ => 0
  | .sequence items => 1 + itemNesting items
  | .record _ members => 1 + memberNesting members
  | .dictionary entries => 1 + entryNesting entries

def itemNesting : List Value → Nat
  | [] => 0
  | v :: vs => max v.nesting (itemNesting vs)

def memberNesting : List (String × Value) → Nat
  | [] => 0
  | (_, v) :: ms => max v.nesting (memberNesting ms)

def entryNesting : List (Scalar × Value) → Nat
  | [] => 0
  | (_, v) :: es => max v.nesting (entryNesting es)

end

namespace Value

def branches : Value → List Value
  | .scalar _ => []
  | .sequence items => items
  | .record _ members => members.map (·.2)
  | .dictionary entries => entries.map (·.2)

/-- Stands in a value, at any depth. -/
inductive Within : Value → Value → Prop
  | refl {v} : Within v v
  | branch {w b v} : b ∈ v.branches → Within w b → Within w v

theorem not_record_within_scalar {tag : Option String} {ms : List (String × Value)} {s : Scalar} :
    ¬Within (.record tag ms) (.scalar s) := by
  rintro (_ | ⟨mem, -⟩)
  contradiction

theorem exists_deepest (vs : List Value) :
    itemNesting vs = 0 ∨ ∃ w ∈ vs, itemNesting vs = w.nesting := by
  induction vs with
  | nil => exact .inl rfl
  | cons v vs ih =>
    rw [itemNesting]
    by_cases deeper : itemNesting vs ≤ v.nesting
    · exact .inr ⟨v, List.mem_cons_self, max_eq_left deeper⟩
    · rw [max_eq_right (Nat.le_of_not_le deeper)]
      obtain zero | ⟨w, mem, eq⟩ := ih
      · exact .inl zero
      · exact .inr ⟨w, List.mem_cons_of_mem v mem, eq⟩

theorem nesting_le_branches (v : Value) : v.nesting ≤ 1 + itemNesting v.branches := by
  have members (ms : List (String × Value)) : memberNesting ms = itemNesting (ms.map (·.2)) := by
    induction ms with
    | nil => rfl
    | cons m ms ih => rw [memberNesting, List.map_cons, itemNesting, ih]
  have entries (es : List (Scalar × Value)) : entryNesting es = itemNesting (es.map (·.2)) := by
    induction es with
    | nil => rfl
    | cons e es ih => rw [entryNesting, List.map_cons, itemNesting, ih]
  cases v with
  | scalar s => exact Nat.zero_le _
  | sequence items => exact Nat.le_refl _
  | record tag ms => rw [nesting, members, branches]
  | dictionary es => rw [nesting, entries, branches]

/-- A value lies one level above its deepest branch. -/
theorem nesting_le_one_or (v : Value) :
    v.nesting ≤ 1 ∨ ∃ w ∈ v.branches, v.nesting ≤ w.nesting + 1 := by
  have below := v.nesting_le_branches
  obtain zero | ⟨w, mem, eq⟩ := exists_deepest v.branches
  · exact .inl (by omega)
  · exact .inr ⟨w, mem, by omega⟩

end Value

namespace Capture.Converter

theorem exists_of_forall₂ {R : α → β → Prop} {as : List α} {bs : List β} {b : β}
    (all : List.Forall₂ R as bs) (mem : b ∈ bs) : ∃ a, R a b := by
  induction all with
  | nil => contradiction
  | cons head tail ih =>
    rcases List.mem_cons.mp mem with rfl | later
    · exact ⟨_, head⟩
    · exact ih later

section Walk

variable (c : Converter α) (transforms : List (α → Option α)) (h : Host α)

/-- A chain of values, each a part of the one before it, as far as the levels go. Some of them,
`pairs` in number, are maps that are taken as pairs. -/
inductive Chain : (levels depth : Nat) → α → Hint → (pairs : Nat) → Prop
  | last {levels depth a hint} : Chain levels depth a hint 0
  | lastPairs {levels depth a hint entries} :
      IsMap c transforms h a false hint entries → Chain levels depth a hint 1
  | part {levels depth a hint b hint' pairs} :
      Part c transforms h (below c transforms h levels depth) a hint b hint' →
      Chain levels (depth + 1) b hint' pairs → Chain (levels + 1) depth a hint pairs
  | pairsPart {levels depth a hint entries b hint' pairs} :
      IsMap c transforms h a false hint entries →
      Part c transforms h (below c transforms h levels depth) a hint b hint' →
      Chain levels (depth + 1) b hint' pairs → Chain (levels + 1) depth a hint (pairs + 1)

end Walk

section Nesting

variable {c : Converter α} {transforms : List (α → Option α)} {h : Host α}
variable {nested : Nested α} {a : α} {hint : Hint} {v : Value}

theorem Chain.pairs_le {levels depth pairs : Nat}
    (chain : Chain c transforms h levels depth a hint pairs) : pairs ≤ levels + 1 := by
  induction chain with
  | last => omega
  | lastPairs taken => omega
  | part part chain ih => omega
  | pairsPart taken part chain ih => omega

/-- A branch of a result that is captured for a part; texts in place of a property are no deeper. -/
def IsBranch (c : Converter α) (transforms : List (α → Option α)) (h : Host α) (a : α)
    (nested : Nested α) (hint : Hint) (w : Value) : Prop :=
  w.nesting = 0 ∨ ∃ b hint', Branch c transforms h a nested hint b hint' w

/-- What one step adds to the nesting of a part; `extra` is the level of the pairs. -/
def Deepens (c : Converter α) (transforms : List (α → Option α)) (h : Host α) (a : α)
    (nested : Nested α) (hint : Hint) (v : Value) (extra : Nat) : Prop :=
  v.nesting ≤ 1 + extra ∨
    ∃ b hint' w, Branch c transforms h a nested hint b hint' w ∧ v.nesting ≤ w.nesting + 1 + extra

theorem deepens_of_branches
    (branches : ∀ w ∈ v.branches, IsBranch c transforms h a nested hint w) :
    Deepens c transforms h a nested hint v 0 := by
  obtain flat | ⟨w, mem, le⟩ := v.nesting_le_one_or
  · exact .inl flat
  · obtain zero | ⟨b, hint', branch⟩ := branches w mem
    · exact .inl (by omega)
    · exact .inr ⟨b, hint', w, branch, le⟩

theorem deepens_of_items {items : List α} {vs : List Value}
    (all : List.Forall₂ (fun b v => Branch c transforms h a nested hint b hint v) items vs) :
    Deepens c transforms h a nested hint (.sequence vs) 0 := by
  apply deepens_of_branches
  intro w mem
  obtain ⟨b, branch⟩ := exists_of_forall₂ all mem
  exact .inr ⟨b, hint, branch⟩

theorem deepens_of_pairs {entries : List (α × α)} {vs : List Value}
    (pairs : List.Forall₂ (PairOf c transforms h a nested hint) entries vs) :
    Deepens c transforms h a nested hint (.sequence vs) 1 := by
  obtain flat | ⟨w, mem, le⟩ := (Value.sequence vs).nesting_le_one_or
  · exact .inl (by omega)
  obtain ⟨e, pair⟩ := exists_of_forall₂ pairs mem
  cases pair with
  | @pair k b key v ofKey ofValue =>
    obtain flat | ⟨w, mem, le'⟩ := (Value.sequence [key, v]).nesting_le_one_or
    · exact .inl (by omega)
    · rcases List.mem_pair.mp mem with rfl | rfl
      · exact .inr ⟨k, hint, w, ofKey, by omega⟩
      · exact .inr ⟨b, hint, w, ofValue, by omega⟩

theorem Assembled.deepens {shape : Shape α}
    (texts : ∀ s v, (nested.text s).result = .ok v → v.nesting = 0)
    (assembled : Assembled c transforms h a nested shape hint v) :
    Deepens c transforms h a nested hint v 0 ∨
      (∃ entries, IsMap c transforms h a false hint entries) ∧
        Deepens c transforms h a nested hint v 1 := by
  cases assembled with
  | sequence all => exact .inl (deepens_of_items all)
  | tuple all => exact .inl (deepens_of_items all)
  | dictionary dictionary all =>
    refine .inl (deepens_of_branches fun w inBranches => ?_)
    obtain ⟨e, inEntries, rfl⟩ := List.mem_map.mp inBranches
    obtain ⟨kept, mem, eq⟩ := List.mem_filterMap.mp inEntries
    obtain ⟨e, entry⟩ := exists_of_forall₂ all mem
    cases entry with
    | nullKey ofKey => contradiction
    | entry ofKey notNull ofValue =>
      cases eq
      exact .inr ⟨_, hint, ofValue⟩
  | pairs noDictionary all =>
    exact .inr ⟨⟨_, noDictionary⟩, deepens_of_pairs all⟩
  | record all =>
    refine .inl (deepens_of_branches fun w inBranches => ?_)
    obtain ⟨m, mem, rfl⟩ := List.mem_map.mp inBranches
    obtain ⟨p, member⟩ := exists_of_forall₂ all mem
    cases member with
    | field branch => exact .inr ⟨_, .destructure, branch⟩
    | getter branch => exact .inr ⟨_, .destructure, branch⟩
    | failed text => exact .inl (texts _ _ text)
    | unsupported text => exact .inl (texts _ _ text)

theorem step_deepens (texts : ∀ s v, (nested.text s).result = .ok v → v.nesting = 0)
    (ok : ((c.withTransforms transforms false).step h nested a hint).result = .ok v) :
    Deepens c transforms h a nested hint v 0 ∨
      (∃ entries, IsMap c transforms h a false hint entries) ∧
        Deepens c transforms h a nested hint v 1 := by
  obtain ⟨s, scalar⟩ | ⟨rfl, noScalar, b, substitute⟩ | byParts :=
    scalar_or_substitute_or_byParts c transforms h a hint
  · rw [step_of_scalar nested false scalar] at ok
    cases ok
    exact .inl (.inl (Nat.zero_le _))
  · rw [step_of_substitute nested false noScalar substitute] at ok
    exact .inl (.inr ⟨b, .destructure, v, ⟨.substitute noScalar substitute, ok⟩, by omega⟩)
  · rw [step_of_byParts nested false byParts] at ok
    cases alone : alone? (h.inside a) hint with
    | some s =>
      rw [parts_of_alone alone] at ok
      cases ok
      exact .inl (.inl (Nat.zero_le _))
    | none => exact (assembled_of_parts byParts alone ok).deepens texts

theorem exists_chain {levels depth : Nat}
    (ok : ((c.withTransforms transforms false).captureAt h levels depth a hint).result = .ok v) :
    ∃ pairs, Chain c transforms h levels depth a hint pairs ∧ v.nesting ≤ levels + 1 + pairs := by
  induction levels generalizing depth a hint v with
  | zero =>
    -- A part that is cut off is null, which adds nothing to what the step itself makes.
    have made {extra : Nat} (deepens : Deepens c transforms h a (.cutOff depth) hint v extra) :
        v.nesting ≤ 1 + extra := by
      obtain flat | ⟨b, hint', w, branch, le⟩ := deepens
      · exact flat
      · cases branch.result
        exact le
    obtain deepens | ⟨⟨entries, taken⟩, deepens⟩ := step_deepens (by rintro s v ⟨⟩; rfl) ok
    · exact ⟨0, .last, by simpa using made deepens⟩
    · exact ⟨1, .lastPairs taken, by simpa using made deepens⟩
  | succ levels ih =>
    have deeper {b : α} {hint' : Hint} {w : Value}
        (branch : Branch c transforms h a (below c transforms h levels depth) hint b hint' w) :
        ∃ pairs, Chain c transforms h levels (depth + 1) b hint' pairs ∧
          w.nesting ≤ levels + 1 + pairs := ih branch.result
    have texts (s : String) (v : Value)
        (ok : ((below c transforms h levels depth).text s).result = .ok v) : v.nesting = 0 := by
      cases ok
      rfl
    obtain deepens | ⟨⟨entries, taken⟩, deepens⟩ := step_deepens texts ok
    · obtain flat | ⟨b, hint', w, branch, le⟩ := deepens
      · exact ⟨0, .last, by omega⟩
      · obtain ⟨pairs, chain, le'⟩ := deeper branch
        exact ⟨pairs, .part branch.part chain, by omega⟩
    · obtain flat | ⟨b, hint', w, branch, le⟩ := deepens
      · exact ⟨1, .lastPairs taken, by omega⟩
      · obtain ⟨pairs, chain, le'⟩ := deeper branch
        exact ⟨pairs + 1, .pairsPart taken branch.part chain, by omega⟩

end Nesting

/-- The nesting exceeds the depth limit, of which zero counts as one, by no more than the number of
maps taken as pairs in one chain. Where no such map is met the limit itself is the bound. -/
theorem nesting_le_depth (c : Converter α) (transforms : List (α → Option α)) (strict : Bool)
    (h : Host α) (a : α) (hint : Hint) {v : Value}
    (captured : ((c.withTransforms transforms strict).capture h a hint).result = .ok v) :
    let limit := max 1 c.limits.depth
    let meets := Chain c transforms h (c.limits.depth - 1) 1 a hint
    (∃ pairs ≤ limit, meets pairs ∧ v.nesting ≤ limit + pairs) ∧
      ((∀ pairs, meets pairs → pairs = 0) → v.nesting ≤ limit) := by
  intro limit meets
  have levels : c.limits.depth - 1 + 1 = limit := by omega
  have lenient :
      ((c.withTransforms transforms false).captureAt h (c.limits.depth - 1) 1 a hint).result =
        .ok v := by
    cases strict with
    | false => exact captured
    | true =>
      have agrees := captureAt_agrees c transforms h (c.limits.depth - 1) 1 a hint
      rw [← agrees.eq_of_ok captured]
      exact captured
  obtain ⟨pairs, chain, le⟩ := exists_chain lenient
  rw [levels] at le
  refine ⟨⟨pairs, levels ▸ chain.pairs_le, chain, le⟩, fun none => ?_⟩
  rw [none pairs chain] at le
  exact le

/-! ### A map with one pair -/

/-- Keys that may be absent are no keys of a dictionary. -/
def sparseShape : Shape Subject :=
  .map ⟨"core::option::Option<i32>", false, false⟩ true
    [(.plain "i32" (.scalar (.integer ⟨.i64, 1, by decide⟩)), .link 7)]

def sparse : Subject :=
  .plain "alloc::collections::btree::map::BTreeMap<core::option::Option<i32>, Ring>" sparseShape

def oneLevel : Converter Subject := { limits := { depth := 1 } }

theorem capture_sparse :
    (oneLevel.capture Subject.rings sparse .destructure).result =
      .ok (.sequence [.sequence [.null, .null]]) := by
  change (oneLevel.step Subject.rings (.cutOff 1) sparse .destructure).result = _
  unfold Converter.step sparse
  rw [Subject.inside_plain _ sparseShape nofun]
  rfl

theorem capture_ring :
    (oneLevel.capture Subject.rings (.link 7) .destructure).result =
      .ok (.record (some "Ring") [("Next", .null)]) := by
  change (oneLevel.step Subject.rings (.cutOff 1) (.link 7) .destructure).result = _
  unfold Converter.step
  rw [Subject.inside_link]
  rfl

theorem ring_meets_no_pairs (pairs : Nat)
    (chain : Chain oneLevel [] Subject.rings 0 1 (.link 7) .destructure pairs) : pairs = 0 := by
  cases chain with
  | last => rfl
  | lastPairs isMap =>
    obtain ⟨key, standard, shape, -⟩ := isMap.shape
    rw [Subject.inside_link] at shape
    contradiction

theorem nesting_le_one_level :
    (∃ v, (oneLevel.capture Subject.rings sparse .destructure).result = .ok v ∧
      ∃ pairs ≤ 1, Chain oneLevel [] Subject.rings 0 1 sparse .destructure pairs ∧
        v.nesting ≤ 1 + pairs) ∧
    ∃ v, (oneLevel.capture Subject.rings (.link 7) .destructure).result = .ok v ∧
      (∀ pairs, Chain oneLevel [] Subject.rings 0 1 (.link 7) .destructure pairs → pairs = 0) ∧
      v.nesting ≤ 1 := by
  constructor
  · exact ⟨_, capture_sparse,
      (nesting_le_depth oneLevel [] false Subject.rings sparse .destructure capture_sparse).1⟩
  · exact ⟨_, capture_ring, ring_meets_no_pairs,
      (nesting_le_depth oneLevel [] false Subject.rings (.link 7) .destructure capture_ring).2
        ring_meets_no_pairs⟩

/-- The pairs of a map can lie below the limit: here the limit is one and the nesting two. -/
theorem nesting_sparse_exceeds :
    ∃ v, (oneLevel.capture Subject.rings sparse .destructure).result = .ok v ∧
      ¬v.nesting ≤ max 1 oneLevel.limits.depth :=
  ⟨_, capture_sparse, by decide⟩

end Capture.Converter

end StructuredLog

import Mathlib
import StructuredLog.Event.Basic

/-!
Events under change. What the properties of an event are is told by the history of its changes
alone: a name is held from its first write after its last removal, in the order of those first
writes, with the value of the last write that took effect. An event and its copy have each a history
of their own.
-/

namespace StructuredLog

inductive Change where
  | set (name : String) (v : Value)
  /-- A write that has an effect only where the name has no value. -/
  | add (name : String) (v : Value)
  | remove (name : String)

namespace Change

def name : Change → String
  | set name _ => name
  | add name _ => name
  | remove name => name

def apply (e : Event) : Change → Except EventError Event
  | set name v => e.set name v
  | add name v => e.setIfAbsent name v
  | remove name => .ok (e.remove name)

/-- The event after a change; a refused one leaves it as it is. -/
def on (e : Event) (c : Change) : Event :=
  match c.apply e with
  | .ok e' => e'
  | .error _ => e

/-- The properties after a change. -/
def onProperties (m : PropertyMap) : Change → PropertyMap
  | set name v => if isPropertyName name then m.insert name v else m
  | add name v => if isPropertyName name then m.insertIfAbsent name v else m
  | remove name => m.erase name

theorem on_eq (e : Event) (c : Change) :
    c.on e = { e with properties := c.onProperties e.properties } := by
  unfold on apply onProperties
  cases c with
  | set name v =>
    by_cases valid : isPropertyName name = true <;> simp [Event.set, valid]
  | add name v =>
    by_cases valid : isPropertyName name = true <;> simp [Event.setIfAbsent, valid]
  | remove name => rfl

end Change

/-- Changes in the order in which they were made. -/
abbrev History := List Change

namespace History

section Spec

variable (h : History) (name : String)

/-- The change at some place writes a value to a name, which is not blank. -/
def Writes (i : Nat) (v : Value) : Prop :=
  isPropertyName name = true ∧ (h[i]? = some (.set name v) ∨ h[i]? = some (.add name v))

def Removes (i : Nat) : Prop := h[i]? = some (.remove name)

/-- Before the change at some place the name was written, and not removed since. -/
def Held (n : Nat) : Prop :=
  ∃ i < n, (∃ v, h.Writes name i v) ∧ ∀ j, i < j → j < n → ¬h.Removes name j

/-- A write that takes effect: an addition does so only to a name that is not held. -/
def Effective (i : Nat) (v : Value) : Prop :=
  h.Writes name i v ∧ (h[i]? = some (.add name v) → ¬h.Held name i)

/-- The last effective write since the last removal. -/
def LastWritten (v : Value) : Prop :=
  ∃ i, h.Effective name i v ∧ ∀ j > i, ¬h.Removes name j ∧ ∀ w, ¬h.Effective name j w

/-- The place of the first write since the last removal. -/
def Inserted (i : Nat) : Prop :=
  (∃ v, h.Writes name i v) ∧ ¬h.Held name i ∧ ∀ j > i, ¬h.Removes name j

end Spec

/-- A history tells which properties there are. -/
structure Tells (h : History) (m : PropertyMap) : Prop where
  valid : ∀ name ∈ m.names, isPropertyName name = true
  mem_iff : ∀ name, name ∈ m.names ↔ ∃ i, h.Inserted name i
  get?_eq_iff : ∀ name v, m.get? name = some v ↔ h.LastWritten name v
  ordered : m.names.Pairwise fun a b => ∀ i j, h.Inserted a i → h.Inserted b j → i < j

section Concat

variable {h : History} {c : Change} {name : String}

theorem getElem?_concat_of_lt {i : Nat} (lt : i < h.length) : (h ++ [c])[i]? = h[i]? :=
  List.getElem?_append_left lt

theorem getElem?_concat_length : (h ++ [c])[h.length]? = some c := by
  rw [List.getElem?_append_right (Nat.le_refl _), Nat.sub_self]
  rfl

theorem writes_concat_of_lt {i : Nat} (lt : i < h.length) (v : Value) :
    (h ++ [c]).Writes name i v ↔ h.Writes name i v := by
  rw [Writes, Writes, getElem?_concat_of_lt lt]

theorem removes_concat_of_lt {i : Nat} (lt : i < h.length) :
    (h ++ [c]).Removes name i ↔ h.Removes name i := by
  rw [Removes, Removes, getElem?_concat_of_lt lt]

/-- What is held at a moment is told by the changes before it. -/
theorem held_concat_of_le {n : Nat} (le : n ≤ h.length) :
    (h ++ [c]).Held name n ↔ h.Held name n := by
  unfold Held
  refine exists_congr fun i => and_congr_right fun lt => and_congr ?_ ?_
  · exact exists_congr fun v => writes_concat_of_lt (Nat.lt_of_lt_of_le lt le) v
  · refine forall_congr' fun j => forall_congr' fun _ => forall_congr' fun lt => not_congr ?_
    exact removes_concat_of_lt (Nat.lt_of_lt_of_le lt le)

theorem writes_concat_length (v : Value) :
    (h ++ [c]).Writes name h.length v ↔
      isPropertyName name = true ∧ (c = .set name v ∨ c = .add name v) := by
  rw [Writes, getElem?_concat_length, Option.some_inj, Option.some_inj]

theorem removes_concat_length : (h ++ [c]).Removes name h.length ↔ c = .remove name := by
  rw [Removes, getElem?_concat_length, Option.some_inj]

theorem lt_of_writes {i : Nat} {v : Value} (writes : h.Writes name i v) : i < h.length := by
  obtain ⟨-, set | add⟩ := writes
  · exact (List.getElem?_eq_some_iff.mp set).1
  · exact (List.getElem?_eq_some_iff.mp add).1

theorem lt_of_removes {i : Nat} (removes : h.Removes name i) : i < h.length :=
  (List.getElem?_eq_some_iff.mp removes).1

theorem length_concat (h : History) (c : Change) : (h ++ [c]).length = h.length + 1 :=
  List.length_append

theorem effective_concat_of_lt {i : Nat} (lt : i < h.length) (v : Value) :
    (h ++ [c]).Effective name i v ↔ h.Effective name i v := by
  rw [Effective, Effective, writes_concat_of_lt lt, getElem?_concat_of_lt lt,
    held_concat_of_le (Nat.le_of_lt lt)]

theorem effective_concat_length (v : Value) :
    (h ++ [c]).Effective name h.length v ↔ isPropertyName name = true ∧
      (c = .set name v ∨ c = .add name v ∧ ¬h.Held name h.length) := by
  rw [Effective, writes_concat_length, getElem?_concat_length, Option.some_inj,
    held_concat_of_le (Nat.le_refl _)]
  constructor
  · rintro ⟨⟨valid, set | add⟩, free⟩
    · exact ⟨valid, .inl set⟩
    · exact ⟨valid, .inr ⟨add, free add⟩⟩
  · rintro ⟨valid, rfl | ⟨rfl, free⟩⟩
    · exact ⟨⟨valid, .inl rfl⟩, nofun⟩
    · exact ⟨⟨valid, .inr rfl⟩, fun _ => free⟩

theorem valid_of_effective {v : Value} (effective : (h ++ [c]).Effective name h.length v) :
    isPropertyName c.name = true := by
  obtain ⟨valid, rfl | ⟨rfl, -⟩⟩ := (effective_concat_length v).mp effective
  · exact valid
  · exact valid

theorem not_removes_of_gt {j : Nat} (beyond : h.length < j) : ¬(h ++ [c]).Removes name j := by
  intro removes
  have lt := lt_of_removes removes
  rw [length_concat] at lt
  omega

theorem not_effective_of_gt {j : Nat} (beyond : h.length < j) (v : Value) :
    ¬(h ++ [c]).Effective name j v := by
  intro effective
  have lt := lt_of_writes effective.1
  rw [length_concat] at lt
  omega

/-- What holds of all later places, once there is one place more. -/
theorem forall_later_concat {P P' : Nat → Prop} {i : Nat} (lt : i < h.length)
    (same : ∀ j < h.length, P' j ↔ P j) (outside : ∀ j ≥ h.length, P j)
    (outside' : ∀ j > h.length, P' j) : (∀ j > i, P' j) ↔ (∀ j > i, P j) ∧ P' h.length := by
  constructor
  · intro all
    refine ⟨fun j later => ?_, all _ lt⟩
    by_cases inside : j < h.length
    · exact (same j inside).mp (all j later)
    · exact outside j (Nat.le_of_not_lt inside)
  · rintro ⟨all, last⟩ j later
    obtain inside | rfl | beyond := Nat.lt_trichotomy j h.length
    · exact (same j inside).mpr (all j later)
    · exact last
    · exact outside' j beyond

theorem kept_concat {i : Nat} (lt : i < h.length) :
    (∀ j > i, ¬(h ++ [c]).Removes name j) ↔
      (∀ j > i, ¬h.Removes name j) ∧ c ≠ .remove name := by
  rw [forall_later_concat (P := fun j => ¬h.Removes name j) lt, removes_concat_length]
  · exact fun j inside => not_congr (removes_concat_of_lt inside)
  · exact fun j outside removes => absurd (lt_of_removes removes) (Nat.not_lt.mpr outside)
  · exact fun j => not_removes_of_gt

theorem quiet_concat {i : Nat} (lt : i < h.length) :
    (∀ j > i, ∀ w, ¬(h ++ [c]).Effective name j w) ↔
      (∀ j > i, ∀ w, ¬h.Effective name j w) ∧ ∀ w, ¬(h ++ [c]).Effective name h.length w := by
  apply forall_later_concat lt
  · exact fun j inside => forall_congr' fun w => not_congr (effective_concat_of_lt inside w)
  · exact fun j outside w other => absurd (lt_of_writes other.1) (Nat.not_lt.mpr outside)
  · exact fun j => not_effective_of_gt

/-- A change writes one value to one name. -/
theorem effective_concat_iff {name' : String} {v w : Value}
    (effective : (h ++ [c]).Effective name h.length v) :
    (h ++ [c]).Effective name' h.length w ↔ name' = name ∧ w = v := by
  constructor
  · intro other
    obtain ⟨-, change⟩ := (effective_concat_length v).mp effective
    obtain ⟨-, change'⟩ := (effective_concat_length w).mp other
    obtain rfl | ⟨rfl, -⟩ := change
    · obtain eq | ⟨eq, -⟩ := change'
      · cases eq
        exact ⟨rfl, rfl⟩
      · contradiction
    · obtain eq | ⟨eq, -⟩ := change'
      · contradiction
      · cases eq
        exact ⟨rfl, rfl⟩
  · rintro ⟨rfl, rfl⟩
    exact effective

/-- The last change tells the value of a name, if it has a say in it; else the changes before do. -/
theorem lastWritten_concat (v : Value) :
    (h ++ [c]).LastWritten name v ↔ (h ++ [c]).Effective name h.length v ∨
      h.LastWritten name v ∧ c ≠ .remove name ∧ ∀ w, ¬(h ++ [c]).Effective name h.length w := by
  unfold LastWritten
  simp only [forall_and]
  constructor
  · rintro ⟨i, effective, kept, quiet⟩
    have lt := lt_of_writes effective.1
    rw [length_concat] at lt
    obtain lt | rfl := Nat.lt_succ_iff_lt_or_eq.mp lt
    · obtain ⟨kept, stays⟩ := (kept_concat lt).mp kept
      obtain ⟨quiet, silent⟩ := (quiet_concat lt).mp quiet
      exact .inr ⟨⟨i, (effective_concat_of_lt lt v).mp effective, kept, quiet⟩, stays, silent⟩
    · exact .inl effective
  · rintro (effective | ⟨⟨i, effective, kept, quiet⟩, stays, silent⟩)
    · exact ⟨h.length, effective, fun j => not_removes_of_gt, fun j => not_effective_of_gt⟩
    · have lt := lt_of_writes effective.1
      exact ⟨i, (effective_concat_of_lt lt v).mpr effective, (kept_concat lt).mpr ⟨kept, stays⟩,
        (quiet_concat lt).mpr ⟨quiet, silent⟩⟩

theorem stays_of_effective {v : Value} (effective : (h ++ [c]).Effective name h.length v)
    (name' : String) : c ≠ .remove name' := by
  rintro rfl
  obtain ⟨-, set | ⟨add, -⟩⟩ := (effective_concat_length v).mp effective <;> contradiction

theorem lt_of_inserted {i : Nat} (inserted : h.Inserted name i) : i < h.length := by
  obtain ⟨⟨v, writes⟩, -⟩ := inserted
  exact lt_of_writes writes

/-- The last change inserts a name if it writes it with effect, and the name was not held. -/
theorem inserted_concat (i : Nat) :
    (h ++ [c]).Inserted name i ↔ h.Inserted name i ∧ c ≠ .remove name ∨
      i = h.length ∧ (∃ v, (h ++ [c]).Effective name h.length v) ∧ ¬h.Held name h.length := by
  constructor
  · intro inserted
    have lt := lt_of_inserted inserted
    obtain ⟨⟨v, writes⟩, free, kept⟩ := inserted
    rw [length_concat] at lt
    obtain lt | rfl := Nat.lt_succ_iff_lt_or_eq.mp lt
    · rw [writes_concat_of_lt lt] at writes
      rw [held_concat_of_le (Nat.le_of_lt lt)] at free
      obtain ⟨kept, stays⟩ := (kept_concat lt).mp kept
      exact .inl ⟨⟨⟨v, writes⟩, free, kept⟩, stays⟩
    · rw [← held_concat_of_le (c := c) (Nat.le_refl _)]
      exact .inr ⟨rfl, ⟨v, writes, fun _ => free⟩, free⟩
  · rintro (⟨inserted, stays⟩ | ⟨rfl, ⟨v, effective⟩, free⟩)
    · have lt := lt_of_inserted inserted
      obtain ⟨⟨v, writes⟩, free, kept⟩ := inserted
      refine ⟨⟨v, (writes_concat_of_lt lt v).mpr writes⟩, ?_, (kept_concat lt).mpr ⟨kept, stays⟩⟩
      rwa [held_concat_of_le (Nat.le_of_lt lt)]
    · refine ⟨⟨v, effective.1⟩, ?_, fun j => not_removes_of_gt⟩
      rwa [held_concat_of_le (Nat.le_refl _)]

/-- A name that is written and not removed later was inserted at some time. -/
theorem exists_inserted {i : Nat} (writes : ∃ v, h.Writes name i v)
    (kept : ∀ j > i, ¬h.Removes name j) : ∃ i, h.Inserted name i := by
  induction i using Nat.strongRecOn with
  | _ i ih =>
    by_cases held : h.Held name i
    · obtain ⟨i', lt, writes', kept'⟩ := held
      apply ih i' lt writes'
      intro j later removes
      obtain before | rfl | after := Nat.lt_trichotomy j i
      · exact kept' j later before removes
      · obtain ⟨v, -, set | add⟩ := writes
        · exact absurd (set.symm.trans removes) (by simp)
        · exact absurd (add.symm.trans removes) (by simp)
      · exact kept j after removes
    · exact ⟨i, writes, held, kept⟩

theorem held_iff_inserted : h.Held name h.length ↔ ∃ i, h.Inserted name i := by
  constructor
  · rintro ⟨i, -, writes, kept⟩
    exact exists_inserted writes fun j later removes =>
      kept j later (lt_of_removes removes) removes
  · rintro ⟨i, writes, -, kept⟩
    obtain ⟨v, writesValue⟩ := writes
    exact ⟨i, lt_of_writes writesValue, ⟨v, writesValue⟩, fun j later _ => kept j later⟩

end Concat

/-! ### One change -/

theorem Tells.empty : Tells [] {} where
  valid := List.forall_mem_nil _
  mem_iff name := by
    refine ⟨fun mem => absurd mem List.not_mem_nil, ?_⟩
    rintro ⟨i, inserted⟩
    exact absurd (lt_of_inserted inserted) (Nat.not_lt_zero i)
  get?_eq_iff name v := by
    refine ⟨nofun, ?_⟩
    rintro ⟨i, effective, -⟩
    exact absurd (lt_of_writes effective.1) (Nat.not_lt_zero i)
  ordered := .nil

section Step

variable {h : History} {m : PropertyMap} {c : Change} (tells : h.Tells m)
include tells

theorem Tells.held_iff (name : String) : h.Held name h.length ↔ name ∈ m.names :=
  held_iff_inserted.trans (tells.mem_iff name).symm

/-- A change that neither removes nor takes effect as a write. -/
theorem Tells.idle (idle : ∀ name v, ¬(h ++ [c]).Effective name h.length v)
    (stays : ∀ name, c ≠ .remove name) : (h ++ [c]).Tells m := by
  have inserted (name : String) (i : Nat) :
      (h ++ [c]).Inserted name i ↔ h.Inserted name i := by
    rw [inserted_concat]
    simp [idle, stays]
  refine ⟨tells.valid, fun name => ?_, fun name v => ?_, ?_⟩
  · simp only [inserted]
    exact tells.mem_iff name
  · rw [lastWritten_concat, tells.get?_eq_iff]
    simp [idle, stays]
  · simp only [inserted]
    exact tells.ordered

theorem Tells.inserted_iff {name : String} {v : Value}
    (effective : (h ++ [c]).Effective name h.length v) (name' : String) (i : Nat) :
    (h ++ [c]).Inserted name' i ↔
      h.Inserted name' i ∨ i = h.length ∧ name' = name ∧ name ∉ m.names := by
  rw [inserted_concat, tells.held_iff, and_iff_left (stays_of_effective effective name')]
  simp only [effective_concat_iff effective, exists_and_left, exists_eq, and_true]
  refine or_congr_right (and_congr_right fun _ => and_congr_right ?_)
  rintro rfl
  rfl

theorem Tells.insert {name : String} {v : Value}
    (effective : (h ++ [c]).Effective name h.length v) : (h ++ [c]).Tells (m.insert name v) := by
  have valid := ((effective_concat_length v).mp effective).1
  have inserted := tells.inserted_iff effective
  refine ⟨?_, fun name' => ?_, fun name' w => ?_, ?_⟩
  · rw [PropertyMap.names_insert]
    split
    · exact tells.valid
    · intro name' mem
      obtain mem | eq := List.mem_append.mp mem
      · exact tells.valid name' mem
      · rw [List.mem_singleton.mp eq]
        exact valid
  · simp only [inserted, exists_or, ← tells.mem_iff, exists_and_right, exists_eq, true_and]
    rw [PropertyMap.names_insert]
    split
    · next held => simp [held]
    · next new => simp [new]
  · rw [lastWritten_concat, PropertyMap.get?_insert, ← tells.get?_eq_iff]
    by_cases same : name' = name
    · simp [effective_concat_iff effective, same, eq_comm]
    · simp [effective_concat_iff effective, same, stays_of_effective effective]
  · rw [PropertyMap.names_insert]
    split
    · next held =>
      simp only [inserted, held, not_true_eq_false, and_false, or_false]
      exact tells.ordered
    · next new =>
      have old {name' : String} (mem : name' ∈ m.names) (i : Nat) :
          (h ++ [c]).Inserted name' i ↔ h.Inserted name' i := by
        rw [inserted, or_iff_left]
        rintro ⟨-, rfl, -⟩
        exact new mem
      refine List.pairwise_append.mpr ⟨?_, List.pairwise_singleton _ _, ?_⟩
      · refine tells.ordered.imp_of_mem fun memA memB before i j first second => ?_
        exact before i j ((old memA i).mp first) ((old memB j).mp second)
      · intro a mem b isName i j first second
        rw [List.mem_singleton] at isName
        subst isName
        rw [old mem] at first
        rw [inserted] at second
        obtain earlier | ⟨rfl, -⟩ := second
        · exact absurd ((tells.mem_iff b).mpr ⟨j, earlier⟩) new
        · exact lt_of_inserted first

theorem Tells.erase {name : String} (removes : c = .remove name) :
    (h ++ [c]).Tells (m.erase name) := by
  have idle (name' : String) (w : Value) : ¬(h ++ [c]).Effective name' h.length w := by
    rw [effective_concat_length, removes]
    simp
  have stays (name' : String) : c ≠ .remove name' ↔ name' ≠ name := by
    rw [removes, ne_eq, Change.remove.injEq, eq_comm]
  have inserted (name' : String) (i : Nat) :
      (h ++ [c]).Inserted name' i ↔ h.Inserted name' i ∧ name' ≠ name := by
    rw [inserted_concat, stays]
    simp [idle]
  refine ⟨fun name' mem => ?_, fun name' => ?_, fun name' w => ?_, ?_⟩
  · rw [PropertyMap.names_erase] at mem
    exact tells.valid name' (List.mem_of_mem_filter mem)
  · simp only [inserted, exists_and_right, ← tells.mem_iff]
    rw [PropertyMap.names_erase, List.mem_filter, decide_eq_true_eq]
  · rw [lastWritten_concat, PropertyMap.get?_erase, stays, ← tells.get?_eq_iff]
    simp only [idle, not_false_eq_true, implies_true, and_true, false_or]
    split <;> simp_all
  · rw [PropertyMap.names_erase]
    refine (tells.ordered.filter _).imp fun before i j first second => ?_
    rw [inserted] at first second
    exact before i j first.1 second.1

theorem Tells.change (c : Change) : (h ++ [c]).Tells (c.onProperties m) := by
  cases c with
  | set name v =>
    by_cases valid : isPropertyName name = true
    · rw [Change.onProperties, if_pos valid]
      exact tells.insert ((effective_concat_length v).mpr ⟨valid, .inl rfl⟩)
    · rw [Change.onProperties, if_neg valid]
      exact tells.idle (fun _ _ effective => valid (valid_of_effective effective)) nofun
  | add name v =>
    by_cases valid : isPropertyName name = true
    · rw [Change.onProperties, if_pos valid]
      by_cases held : name ∈ m.names
      · rw [PropertyMap.insertIfAbsent_of_mem held]
        refine tells.idle (fun name' w effective => ?_) nofun
        obtain ⟨-, eq | ⟨eq, free⟩⟩ := (effective_concat_length w).mp effective
        · contradiction
        · cases eq
          exact free ((tells.held_iff name).mpr held)
      · rw [PropertyMap.insertIfAbsent_of_notMem held]
        rw [← tells.held_iff] at held
        exact tells.insert ((effective_concat_length v).mpr ⟨valid, .inr ⟨rfl, held⟩⟩)
    · rw [Change.onProperties, if_neg valid]
      exact tells.idle (fun _ _ effective => valid (valid_of_effective effective)) nofun
  | remove name => exact tells.erase rfl

theorem Tells.changes (changes : List Change) :
    (h ++ changes).Tells (changes.foldl (fun m c => c.onProperties m) m) := by
  induction changes generalizing h m with
  | nil => simpa using tells
  | cons c changes ih => simpa using ih (tells.change c)

end Step

end History

/-! ### Copies -/

/-- An event and a copy of it, or what is known of each of them. -/
structure Versions (α : Type) where
  current : α
  stored : α

namespace Versions

inductive Op where
  | change (c : Change)
  | copy
  | swap

def step (change : α → Change → α) (v : Versions α) : Op → Versions α
  | .change c => { v with current := change v.current c }
  | .copy => { v with stored := v.current }
  | .swap => ⟨v.stored, v.current⟩

def run (change : α → Change → α) (v : Versions α) (ops : List Op) : Versions α :=
  ops.foldl (step change) v

/-- What changes keep holds of both versions after every run. -/
theorem run_related {R : α → β → Prop} {f : α → Change → α} {g : β → Change → β}
    (changes : ∀ a b c, R a b → R (f a c) (g b c)) {v : Versions α} {w : Versions β}
    (current : R v.current w.current) (stored : R v.stored w.stored) (ops : List Op) :
    R (v.run f ops).current (w.run g ops).current ∧
      R (v.run f ops).stored (w.run g ops).stored := by
  induction ops generalizing v w with
  | nil => exact ⟨current, stored⟩
  | cons op ops ih =>
    cases op with
    | change c => exact ih (changes _ _ c current) stored
    | copy => exact ih current current
    | swap => exact ih stored current

/-- Changes reach the current version alone. -/
theorem run_changes (f : α → Change → α) (v : Versions α) (changes : List Change) :
    v.run f (changes.map .change) = ⟨changes.foldl f v.current, v.stored⟩ := by
  induction changes generalizing v with
  | nil => rfl
  | cons c changes ih => exact ih _

end Versions

namespace Event

theorem make_eq (timestamp : ZonedDateTime) (level : Level) (exception : Option Exception)
    (template : Template) (props : List (String × Value)) :
    make timestamp level exception template props =
      if ∀ p ∈ props, isPropertyName p.1 = true then
        .ok ⟨timestamp, level, exception, template,
          (props.map fun p => Change.set p.1 p.2).foldl (fun m c => c.onProperties m) {}⟩
      else .error .invalidPropertyName := by
  unfold make
  generalize ({} : PropertyMap) = m
  induction props generalizing m with
  | nil => rfl
  | cons p props ih =>
    rw [List.foldlM_cons]
    simp only [List.forall_mem_cons]
    by_cases valid : isPropertyName p.1 = true
    · have first : Event.set ⟨timestamp, level, exception, template, m⟩ p.1 p.2 =
          .ok ⟨timestamp, level, exception, template, m.insert p.1 p.2⟩ := if_pos valid
      have change : (Change.set p.1 p.2).onProperties m = m.insert p.1 p.2 := if_pos valid
      simp only [first, valid, true_and, List.map_cons, List.foldl_cons, change]
      exact ih (m.insert p.1 p.2)
    · have first : Event.set ⟨timestamp, level, exception, template, m⟩ p.1 p.2 =
          .error .invalidPropertyName := if_neg valid
      simp only [first, valid, Bool.false_eq_true, false_and, if_false]
      rfl

theorem apply_eq_error_iff (e : Event) (c : Change) (err : EventError) :
    c.apply e = .error err ↔ isPropertyName c.name = false ∧ ∀ name, c ≠ .remove name := by
  cases err
  cases c with
  | set name v =>
    by_cases valid : isPropertyName name = true <;>
      simp [Change.apply, Event.set, Change.name, valid]
  | add name v =>
    by_cases valid : isPropertyName name = true <;>
      simp [Change.apply, Event.setIfAbsent, Change.name, valid]
  | remove name => simp [Change.apply]

/-- A blank name is no name of a property, so that there is nothing to remove either. -/
theorem on_blank {h : History} {e : Event} (tells : h.Tells e.properties) {c : Change}
    (blank : isPropertyName c.name = false) : c.on e = e := by
  cases c with
  | set name v =>
    have refused : Event.set e name v = .error .invalidPropertyName :=
      if_neg (Bool.not_eq_true _ ▸ blank)
    rw [Change.on, Change.apply, refused]
  | add name v =>
    have refused : Event.setIfAbsent e name v = .error .invalidPropertyName :=
      if_neg (Bool.not_eq_true _ ▸ blank)
    rw [Change.on, Change.apply, refused]
  | remove name =>
    have absent : name ∉ e.properties.names := by
      intro mem
      have valid := tells.valid name mem
      rw [Change.name, valid] at blank
      contradiction
    rw [Change.on_eq, Change.onProperties, PropertyMap.erase_of_notMem absent]

/-- The properties of an event and of its copy after any run of changes, copies and swaps. Each is
what its own history tells, and a refused change is one that writes to a blank name. -/
theorem properties_after_run (timestamp : ZonedDateTime) (level : Level)
    (exception : Option Exception) (template : Template) (props : List (String × Value))
    (ops : List Versions.Op) :
    ((∃ err, make timestamp level exception template props = .error err) ↔
      ∃ p ∈ props, isPropertyName p.1 = false) ∧
    ∀ e, make timestamp level exception template props = .ok e →
      let given := props.map fun p => Change.set p.1 p.2
      let events := Versions.run Change.on ⟨e, e⟩ ops
      let histories : Versions History := Versions.run (fun h c => h ++ [c]) ⟨given, given⟩ ops
      (events.current.properties.names.Nodup ∧ events.stored.properties.names.Nodup) ∧
      (histories.current.Tells events.current.properties ∧
        histories.stored.Tells events.stored.properties) ∧
      (∀ changes : List Change, events.run Change.on (changes.map .change) =
        ⟨changes.foldl Change.on events.current, events.stored⟩) ∧
      ∀ c : Change, ((∃ err, c.apply events.current = .error err) ↔
          isPropertyName c.name = false ∧ ∀ name, c ≠ .remove name) ∧
        (isPropertyName c.name = false → c.on events.current = events.current) := by
  rw [make_eq]
  by_cases valid : ∀ p ∈ props, isPropertyName p.1 = true
  · rw [if_pos valid]
    refine ⟨⟨nofun, fun ⟨p, mem, blank⟩ => ?_⟩, ?_⟩
    · rw [valid p mem] at blank
      contradiction
    rintro e ⟨⟩ given events histories
    have made : History.Tells given (given.foldl (fun m c => c.onProperties m) {}) :=
      History.Tells.empty.changes given
    have follow (e : Event) (h : History) (c : Change) (tells : h.Tells e.properties) :
        History.Tells (h ++ [c]) (c.on e).properties := by
      rw [Change.on_eq]
      exact tells.change c
    have tells : histories.current.Tells events.current.properties ∧
        histories.stored.Tells events.stored.properties :=
      Versions.run_related (R := fun (e : Event) (h : History) => h.Tells e.properties)
        follow (v := ⟨_, _⟩) (w := ⟨_, _⟩) made made ops
    refine ⟨⟨events.current.properties.nodup, events.stored.properties.nodup⟩, tells,
      Versions.run_changes Change.on events, fun c => ⟨?_, on_blank tells.1⟩⟩
    exact ⟨fun ⟨err, refused⟩ => (apply_eq_error_iff _ c err).mp refused,
      fun blank => ⟨_, (apply_eq_error_iff _ c .invalidPropertyName).mpr blank⟩⟩
  · rw [if_neg valid]
    refine ⟨⟨fun _ => ?_, fun _ => ⟨_, rfl⟩⟩, nofun⟩
    simpa using valid

def opened : Event :=
  ⟨⟨⟨⟨2024, 5, 6, by decide⟩, ⟨7, 8, 9, 0, by decide⟩⟩, ⟨3600, by decide⟩⟩, .information,
  none, .parse "\x7bA\x7d",
    .ofList [("A", .scalar (.bool true)), ("B", .scalar (.bool true))]⟩

/-- The copy has lost one name; the original has got it back, behind the other one. -/
theorem properties_after_return :
    let props : List (String × Value) := opened.properties.entries
    let ops : List Versions.Op := [.change (.remove "A"), .copy,
      .change (.set "A" (.scalar (.bool false))), .change (.add "B" .null), .swap]
    let events := Versions.run Change.on ⟨opened, opened⟩ ops
    make opened.timestamp opened.level opened.exception opened.template props = .ok opened ∧
    events.current.properties.names = ["B"] ∧ events.stored.properties.names = ["B", "A"] ∧
    History.Tells [.set "A" (.scalar (.bool true)), .set "B" (.scalar (.bool true)), .remove "A",
      .set "A" (.scalar (.bool false)), .add "B" .null] events.stored.properties ∧
    isPropertyName " " = false ∧ (Change.add " " .null).on events.current = events.current := by
  intro props ops events
  have made : make opened.timestamp opened.level opened.exception opened.template props =
      .ok opened := rfl
  obtain ⟨-, run⟩ := properties_after_run opened.timestamp opened.level opened.exception
    opened.template props ops
  obtain ⟨-, tells, -, refused⟩ := run opened made
  have blank : isPropertyName " " = false := by decide
  exact ⟨made, rfl, rfl, tells.2, blank, (refused (.add " " .null)).2 blank⟩

/-- Nothing is there to remove under a blank name, and the removal is no failure. -/
theorem remove_blank_succeeds :
    isPropertyName " " = false ∧ ¬∃ err, (Change.remove " ").apply opened = .error err := by
  refine ⟨by decide, ?_⟩
  rintro ⟨err, refused⟩
  contradiction

end Event

end StructuredLog

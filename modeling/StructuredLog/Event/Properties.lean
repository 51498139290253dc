import StructuredLog.Keyed
import StructuredLog.Value.Basic

/-!
Properties by name, in the order in which the names were first given.
-/

namespace StructuredLog

/-- No name occurs twice. -/
structure PropertyMap where
  entries : List (String × Value) := []
  nodup : (entries.map (·.1)).Nodup := by exact List.nodup_nil

namespace PropertyMap

def get? (m : PropertyMap) (name : String) : Option Value := m.entries.lookup name

def contains (m : PropertyMap) (name : String) : Bool := (m.get? name).isSome

/-- Replaces the value of a name where it stands, or appends a new name. -/
def insert (m : PropertyMap) (name : String) (v : Value) : PropertyMap :=
  ⟨Keyed.put name v m.entries, Keyed.nodup_keys_put name v m.nodup⟩

theorem get?_insert (m : PropertyMap) (name name' : String) (v : Value) :
    (m.insert name v).get? name' = if name' = name then some v else m.get? name' :=
  Keyed.lookup_put name name' v m.entries

def names (m : PropertyMap) : List String := m.entries.map (·.1)

theorem names_insert (m : PropertyMap) (name : String) (v : Value) :
    (m.insert name v).names = if name ∈ m.names then m.names else m.names ++ [name] :=
  Keyed.keys_put name v m.entries

theorem get?_eq_none_iff {m : PropertyMap} {name : String} :
    m.get? name = none ↔ name ∉ m.names := Keyed.lookup_eq_none_iff

theorem get?_of_mem {m : PropertyMap} {name : String} {v : Value} (mem : (name, v) ∈ m.entries) :
    m.get? name = some v := Keyed.lookup_of_mem m.nodup mem

theorem contains_iff {m : PropertyMap} {name : String} :
    m.contains name = true ↔ name ∈ m.names := by
  rw [contains, Option.isSome_iff_ne_none, Ne, get?_eq_none_iff, Decidable.not_not]

def insertIfAbsent (m : PropertyMap) (name : String) (v : Value) : PropertyMap :=
  if present : m.contains name then m
  else
    ⟨m.entries ++ [(name, v)], by
      rw [List.map_append]
      exact Keyed.nodup_concat m.nodup (mt contains_iff.mpr present)⟩

theorem insertIfAbsent_of_mem {m : PropertyMap} {name : String} (mem : name ∈ m.names) (v : Value) :
    m.insertIfAbsent name v = m := dif_pos (contains_iff.mpr mem)

theorem insertIfAbsent_of_notMem {m : PropertyMap} {name : String} (absent : name ∉ m.names)
    (v : Value) : m.insertIfAbsent name v = m.insert name v := by
  rw [insertIfAbsent, dif_neg (mt contains_iff.mp absent)]
  simp only [insert, Keyed.put_of_notMem absent]

def erase (m : PropertyMap) (name : String) : PropertyMap :=
  ⟨m.entries.filter (·.1 ≠ name), m.nodup.sublist (List.filter_sublist.map _)⟩

theorem names_erase (m : PropertyMap) (name : String) :
    (m.erase name).names = m.names.filter (· ≠ name) := by
  rw [names, names, List.filter_map]
  rfl

theorem erase_of_notMem {m : PropertyMap} {name : String} (absent : name ∉ m.names) :
    m.erase name = m := by
  have all : ∀ e ∈ m.entries, decide (e.1 ≠ name) = true := by
    intro e mem
    rw [decide_eq_true_eq]
    rintro rfl
    exact absent (List.mem_map_of_mem mem)
  simp only [erase, List.filter_eq_self.mpr all]

theorem get?_erase (m : PropertyMap) (name name' : String) :
    (m.erase name).get? name' = if name' = name then none else m.get? name' :=
  Keyed.lookup_filter_ne name name' m.entries

/-- Later values replace earlier ones of the same name. -/
def ofList (es : List (String × Value)) : PropertyMap :=
  es.foldl (fun m (name, v) => m.insert name v) {}

end PropertyMap

end StructuredLog

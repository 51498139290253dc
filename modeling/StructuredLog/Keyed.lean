/-!
Entries by key: each key once, with the value that was given last, in the order of arrival or of
the keys.
-/

namespace StructuredLog.Keyed

/-- Replaces the value of a key where it stands, or appends a new key. -/
def put [DecidableEq κ] (k : κ) (v : β) : List (κ × β) → List (κ × β)
  | [] => [(k, v)]
  | e :: es => if e.1 = k then (k, v) :: es else e :: put k v es

theorem keys_put [DecidableEq κ] (k : κ) (v : β) (es : List (κ × β)) :
    (put k v es).map (·.1) =
      if k ∈ es.map (·.1) then es.map (·.1) else es.map (·.1) ++ [k] := by
  induction es with
  | nil => rfl
  | cons e es ih =>
    by_cases h : e.1 = k
    · simp [put, h]
    · have h' : ¬ k = e.1 := fun q => h q.symm
      simp only [put, h, if_false, List.map_cons, ih, List.mem_cons, h', false_or]
      split <;> rfl

/-- A new key is appended. -/
theorem put_of_notMem [DecidableEq κ] {k : κ} {es : List (κ × β)} (absent : k ∉ es.map (·.1))
    (v : β) : put k v es = es ++ [(k, v)] := by
  induction es with
  | nil => rfl
  | cons e es ih =>
    rw [List.map_cons, List.mem_cons, not_or] at absent
    rw [put, if_neg fun eq => absent.1 eq.symm, ih absent.2, List.cons_append]

theorem nodup_concat {ks : List κ} {k : κ} (h : ks.Nodup) (n : k ∉ ks) : (ks ++ [k]).Nodup := by
  refine List.nodup_append.mpr ⟨h, by simp, fun a ha b hb e => n ?_⟩
  rw [List.mem_singleton] at hb
  exact hb ▸ e ▸ ha

theorem nodup_keys_put [DecidableEq κ] {es : List (κ × β)} (k : κ) (v : β)
    (h : (es.map (·.1)).Nodup) : ((put k v es).map (·.1)).Nodup := by
  rw [keys_put]
  split
  · exact h
  · next n => exact nodup_concat h n

theorem lookup_cons_if [DecidableEq κ] (k : κ) (e : κ × β) (es : List (κ × β)) :
    (e :: es).lookup k = if k = e.1 then some e.2 else es.lookup k := by
  obtain ⟨k', v⟩ := e
  by_cases h : k = k'
  · simp [h]
  · simp [List.lookup_cons, h, beq_eq_false_iff_ne.mpr h]

theorem lookup_put [DecidableEq κ] (k k' : κ) (v : β) (es : List (κ × β)) :
    (put k v es).lookup k' = if k' = k then some v else es.lookup k' := by
  induction es with
  | nil => rw [put, lookup_cons_if]
  | cons e es ih =>
    by_cases h : e.1 = k
    · subst h
      simp only [put, if_true, lookup_cons_if]
      split <;> rfl
    · simp only [put, h, if_false, lookup_cons_if, ih]
      by_cases q : k' = e.1
      · rw [if_pos q, if_neg fun r => h (q ▸ r), if_pos q]
      · rw [if_neg q, if_neg q]

theorem lookup_filter_ne [DecidableEq κ] (k k' : κ) (es : List (κ × β)) :
    (es.filter (·.1 ≠ k)).lookup k' = if k' = k then none else es.lookup k' := by
  induction es with
  | nil => simp
  | cons e es ih =>
    by_cases h : e.1 = k
    · rw [List.filter_cons_of_neg (by simpa using h), ih, lookup_cons_if]
      by_cases q : k' = k
      · rw [if_pos q, if_pos q]
      · rw [if_neg q, if_neg q, if_neg fun r => q (r.trans h)]
    · rw [List.filter_cons_of_pos (by simpa using h), lookup_cons_if, lookup_cons_if, ih]
      by_cases q : k' = e.1
      · rw [if_pos q, if_pos q, if_neg fun r => h (q ▸ r)]
      · rw [if_neg q, if_neg q]

theorem lookup_eq_none_iff [DecidableEq κ] {k : κ} {es : List (κ × β)} :
    es.lookup k = none ↔ k ∉ es.map (·.1) := by
  induction es with
  | nil => simp
  | cons e es ih =>
    rw [lookup_cons_if, List.map_cons, List.mem_cons, not_or, ← ih]
    by_cases same : k = e.1 <;> simp [same]

theorem lookup_of_mem [DecidableEq κ] {k : κ} {v : β} {es : List (κ × β)}
    (nodup : (es.map (·.1)).Nodup) (mem : (k, v) ∈ es) : es.lookup k = some v := by
  induction es with
  | nil => contradiction
  | cons e es ih =>
    obtain ⟨absent, nodup⟩ := List.nodup_cons.mp nodup
    rw [lookup_cons_if]
    rcases List.mem_cons.mp mem with rfl | mem
    · exact if_pos rfl
    · rw [if_neg fun same => absent (List.mem_map.mpr ⟨_, mem, same⟩), ih nodup mem]

theorem lookup_map_keys [DecidableEq κ] [DecidableEq ι] {f : κ → ι}
    (injective : Function.Injective f) (g : β → γ) (es : List (κ × β)) (k : κ) :
    (es.map fun e => (f e.1, g e.2)).lookup (f k) = (es.lookup k).map g := by
  induction es with
  | nil => rfl
  | cons e es ih =>
    rw [List.map_cons, lookup_cons_if, lookup_cons_if, ih]
    by_cases same : k = e.1
    · rw [if_pos same, if_pos (congrArg f same)]
      rfl
    · rw [if_neg same, if_neg fun eq => same (injective eq)]

/-- Replaces the value of a key, or puts a new key before the first that is greater. -/
def place [LT κ] [DecidableLT κ] (k : κ) (v : β) : List (κ × β) → List (κ × β)
  | [] => [(k, v)]
  | e :: es =>
    if k < e.1 then (k, v) :: e :: es
    else if e.1 < k then e :: place k v es
    else (k, v) :: es

/-- Keys in the order in which they first came. -/
def byArrival [DecidableEq κ] (es : List (κ × β)) : List (κ × β) :=
  es.foldl (fun kept e => put e.1 e.2 kept) []

/-- Keys in ascending order. -/
def ascending [LT κ] [DecidableLT κ] (es : List (κ × β)) : List (κ × β) :=
  es.foldl (fun kept e => place e.1 e.2 kept) []

section Ascending

variable [LT κ] [DecidableLT κ] [Std.Asymm (LT.lt : κ → κ → Prop)]

/-- A key greater than all others is appended. -/
theorem place_of_forall_lt {k : κ} {es : List (κ × β)} (greater : ∀ e ∈ es, e.1 < k) (v : β) :
    place k v es = es ++ [(k, v)] := by
  induction es with
  | nil => rfl
  | cons e es ih =>
    obtain ⟨first, rest⟩ := List.forall_mem_cons.mp greater
    rw [place, if_neg (Std.Asymm.asymm _ _ first), if_pos first, ih rest, List.cons_append]

/-- Keys that ascend already stay as they are. -/
theorem ascending_of_pairwise {es : List (κ × β)} (sorted : (es.map (·.1)).Pairwise (· < ·)) :
    ascending es = es := by
  rw [List.pairwise_map] at sorted
  -- What is put into place comes after all that has been placed before.
  have placed (rest kept : List (κ × β)) (both : (kept ++ rest).Pairwise (·.1 < ·.1)) :
      rest.foldl (fun kept e => place e.1 e.2 kept) kept = kept ++ rest := by
    induction rest generalizing kept with
    | nil => rw [List.foldl_nil, List.append_nil]
    | cons e rest ih =>
      have greater : ∀ e' ∈ kept, e'.1 < e.1 := fun e' mem =>
        (List.pairwise_append.mp both).2.2 e' mem e List.mem_cons_self
      rw [List.foldl_cons, place_of_forall_lt greater, ih, List.append_assoc,
        List.singleton_append]
      rw [List.append_assoc, List.singleton_append]
      exact both
  exact placed es [] sorted

end Ascending

end StructuredLog.Keyed

import StructuredLog.Capture.Document
import StructuredLog.Proofs.Capture.Parts
import StructuredLog.Proofs.Json.Value

/-!
Documents survive their capture. A document whose containers lie within the limits is captured as
one value, whatever the depth it is met at, and the JSON text of that value reads as the document
again: no member is dropped, retyped or moved. The value does not depend on the converter, so the
limits enter by one induction over the document, and the text by another that has none.
-/

namespace StructuredLog

namespace Json

/-! ### Documents within limits -/

mutual

/-- The levels of a document. One without children has a single level. -/
def Document.height : Document → Nat
  | .null | .bool _ | .number _ | .string _ => 1
  | .array items => itemsHeight items + 1
  | .object members => membersHeight members + 1

def itemsHeight : List Document → Nat
  | [] => 0
  | d :: ds => max d.height (itemsHeight ds)

def membersHeight : List (String × Document) → Nat
  | [] => 0
  | (_, d) :: ms => max d.height (membersHeight ms)

end

theorem Document.height_pos (d : Document) : 0 < d.height := by
  cases d with
  | array items => exact Nat.succ_pos _
  | object members => exact Nat.succ_pos _
  | _ => exact Nat.one_pos

theorem height_le_itemsHeight {d : Document} {items : List Document} (mem : d ∈ items) :
    d.height ≤ itemsHeight items := by
  induction items with
  | nil => cases mem
  | cons first items ih =>
    rcases List.mem_cons.mp mem with rfl | later
    · exact Nat.le_max_left _ _
    · exact (ih later).trans (Nat.le_max_right _ _)

theorem membersHeight_eq (members : List (String × Document)) :
    membersHeight members = itemsHeight (members.map (·.2)) := by
  induction members with
  | nil => rfl
  | cons m ms ih => rw [membersHeight, ih, List.map_cons, itemsHeight]

theorem height_le_membersHeight {m : String × Document} {members : List (String × Document)}
    (mem : m ∈ members) : m.2.height ≤ membersHeight members := by
  rw [membersHeight_eq]
  exact height_le_itemsHeight (List.mem_map_of_mem mem)

/-- Documents with names in ascending order, whose numbers are integers of 64 bits and whose
containers hold no more than a count. -/
inductive Bounded (count : Option Nat) : Document → Prop
  | null : Bounded count .null
  | bool (b : Bool) : Bounded count (.bool b)
  | integer {i : Int} : -2 ^ 63 ≤ i → i < 2 ^ 64 → Bounded count (.number (.integer i))
  | string (s : String) : Bounded count (.string s)
  | array {items : List Document} : (∀ n ∈ count, items.length ≤ n) →
      (∀ d ∈ items, Bounded count d) → Bounded count (.array items)
  | object {members : List (String × Document)} : (∀ n ∈ count, members.length ≤ n) →
      (members.map (·.1)).Pairwise (· < ·) → (∀ m ∈ members, Bounded count m.2) →
      Bounded count (.object members)

/-! ### What documents are captured as -/

mutual

def Document.value : Document → Value
  | .null => .null
  | .bool b => .scalar (.bool b)
  | .number n => .scalar n.scalar
  | .string s => .scalar (.string s)
  | .array items => .sequence (itemValues items)
  | .object members => .dictionary (entryValues members)

def itemValues : List Document → List Value
  | [] => []
  | d :: ds => d.value :: itemValues ds

def entryValues : List (String × Document) → List (Scalar × Value)
  | [] => []
  | (name, d) :: ms => (.string name, d.value) :: entryValues ms

end

theorem itemValues_eq (items : List Document) : itemValues items = items.map Document.value := by
  induction items with
  | nil => rfl
  | cons d ds ih => rw [itemValues, ih, List.map_cons]

theorem entryValues_eq (members : List (String × Document)) :
    entryValues members = members.map fun m => (.string m.1, m.2.value) := by
  induction members with
  | nil => rfl
  | cons m ms ih => rw [entryValues, ih, List.map_cons]

/-- An integer of 64 bits keeps its value, signed where it can be. -/
theorem scalar_integer {i : Int} (least : -2 ^ 63 ≤ i) (greatest : i < 2 ^ 64) :
    ∃ n : Integer, (Number.integer i).scalar = .integer n ∧ n.value = i := by
  by_cases signed : IntKind.i64.least ≤ i ∧ i ≤ IntKind.i64.greatest
  · refine ⟨⟨.i64, i, signed⟩, ?_, rfl⟩
    simp only [Number.scalar, Integer.ofInt?, dif_pos signed, Option.some_or]
  · have unsigned : IntKind.u64.least ≤ i ∧ i ≤ IntKind.u64.greatest := by
      simp only [IntKind.least, IntKind.greatest, IntKind.isSigned, IntKind.bits] at signed ⊢
      norm_num at signed least greatest ⊢
      omega
    refine ⟨⟨.u64, i, unsigned⟩, ?_, rfl⟩
    simp only [Number.scalar, Integer.ofInt?, dif_neg signed, dif_pos unsigned, Option.none_or]

/-- What a bounded document is captured as denotes the document again, under any name of tags. -/
theorem Bounded.document_value {count : Option Nat} {d : Document} (bounded : Bounded count d)
    (tagName : String) : d.value.document tagName = d := by
  induction bounded with
  | null => rfl
  | bool b => rfl
  | integer least greatest =>
    obtain ⟨n, scalar, value⟩ := scalar_integer least greatest
    rw [Document.value, Value.document, scalar, Scalar.document, value]
  | string s => rfl
  | @array items _ _ ih =>
    rw [Document.value, Value.document, itemValues_eq, itemDocuments_eq, List.map_map]
    exact congrArg Document.array ((List.map_congr_left ih).trans (List.map_id items))
  | @object members _ _ _ ih =>
    rw [Document.value, Value.document, entryValues_eq, entryDocuments_eq, List.map_map]
    have same : ∀ m ∈ members, (m.1, m.2.value.document tagName) = m := fun m mem =>
      Prod.ext rfl (ih m mem)
    exact congrArg Document.object ((List.map_congr_left same).trans (List.map_id members))

end Json

namespace Capture

/-! ### The capture of a document -/

theorem ofItems_eq (t : DocumentTypes) (items : List Json.Document) :
    ofItems t items = items.map (Subject.ofDocument t) := by
  induction items with
  | nil => rfl
  | cons d ds ih => rw [ofItems, ih, List.map_cons]

theorem ofMembers_eq (t : DocumentTypes) (members : List (String × Json.Document)) :
    ofMembers t members = members.map fun m => (m.1, .ofDocument t m.2) := by
  induction members with
  | nil => rfl
  | cons m ms ih => rw [ofMembers, ih, List.map_cons]

/-- An object whose names ascend has its entries in that order. -/
theorem Subject.ofDocument_object (t : DocumentTypes) {members : List (String × Json.Document)}
    (sorted : (members.map (·.1)).Pairwise (· < ·)) :
    Subject.ofDocument t (.object members) = .plain t.document (.map ⟨t.key, false, false⟩ true
      (members.map fun m => (.plain t.key (.text m.1), .ofDocument t m.2))) := by
  have kept : (ofMembers t members).map (·.1) = members.map (·.1) := by
    rw [ofMembers_eq, List.map_map]
    rfl
  rw [Subject.ofDocument, Keyed.ascending_of_pairwise (kept ▸ sorted), ofMembers_eq, List.map_map]
  rfl

theorem Outcome.each_map {s : δ → α} {f : α → Outcome β} {g : δ → β} {ds : List δ}
    (all : ∀ d ∈ ds, f (s d) = .pure (g d)) : each f (ds.map s) = .pure (ds.map g) := by
  induction ds with
  | nil => rfl
  | cons d ds ih =>
    obtain ⟨first, rest⟩ := List.forall_mem_cons.mp all
    rw [List.map_cons, each, first, ih rest]
    rfl

namespace Converter

/-- Nothing was registered: neither types nor policies. -/
structure Bare (c : Converter α) : Prop where
  scalarTypes : c.scalarTypes = []
  dictionaryTypes : c.dictionaryTypes = []
  policies : c.policies = []

/-- Hints under which a converter keeps texts whole. -/
def KeepsTexts (c : Converter α) (hint : Hint) : Prop :=
  hint = .default ∨ hint = .destructure ∧ c.limits.textLength = none

theorem keep_of_le {c : Converter α} {items : List β}
    (fits : ∀ n ∈ c.limits.itemCount, items.length ≤ n) : c.keep items = items := by
  unfold keep
  split
  · rfl
  · next n eq => exact List.take_of_length_le (fits n eq)

section Bare

variable {c : Converter Subject} {objects : Int → Linked} {hint : Hint} {typeName : String}

theorem captureAt_of_scalar? (shape : Shape Subject) (noWrapper : ∀ b, shape ≠ .wrapper b)
    {s : Scalar}
    (scalar : c.scalar? ⟨shape, ⟨typeName, false, false⟩, typeName, none⟩ hint = some s)
    (levels depth : Nat) :
    c.captureAt (Subject.host objects) levels depth (.plain typeName shape) hint =
      .pure (.scalar s) := by
  rw [captureAt_eq_step]
  simp only [step, Subject.host_inside_plain objects typeName shape noWrapper, scalar]

/-- Without policies a value that is no scalar is captured by its parts. -/
theorem captureAt_of_parts (bare : c.Bare) (shape : Shape Subject)
    (noWrapper : ∀ b, shape ≠ .wrapper b)
    (noScalar : c.scalar? ⟨shape, ⟨typeName, false, false⟩, typeName, none⟩ hint = none)
    (levels depth : Nat) :
    c.captureAt (Subject.host objects) levels depth (.plain typeName shape) hint =
      c.parts (c.nestedAt (Subject.host objects) levels depth)
        ⟨shape, ⟨typeName, false, false⟩, typeName, none⟩ hint := by
  rw [captureAt_eq_step]
  simp only [step, Subject.host_inside_plain objects typeName shape noWrapper, noScalar,
    bare.policies, Nested.consult, Outcome.pure_bind, ite_self]

theorem captureAt_text (keeps : c.KeepsTexts hint) (text : String) (levels depth : Nat) :
    c.captureAt (Subject.host objects) levels depth (.plain typeName (.text text)) hint =
      .pure (.scalar (.string text)) := by
  refine captureAt_of_scalar? (.text text) nofun ?_ levels depth
  rcases keeps with rfl | ⟨rfl, unbounded⟩
  · rfl
  · simp only [scalar?, truncate, unbounded]

theorem captureAt_scalar (keeps : c.KeepsTexts hint) (s : Scalar) (levels depth : Nat) :
    c.captureAt (Subject.host objects) levels depth (.plain typeName (.scalar s)) hint =
      .pure (.scalar s) := by
  refine captureAt_of_scalar? (.scalar s) nofun ?_ levels depth
  rcases keeps with rfl | ⟨rfl, -⟩ <;> rfl

/-- The items of a document, as parts of it. -/
theorem captureAt_sequence (bare : c.Bare) (keeps : c.KeepsTexts hint) {items : List Subject}
    (few : ∀ n ∈ c.limits.itemCount, items.length ≤ n) (levels depth : Nat) :
    c.captureAt (Subject.host objects) levels depth (.plain typeName (.sequence items)) hint =
      (Outcome.each ((c.nestedAt (Subject.host objects) levels depth).value · hint) items).bind
        fun vs => .pure (.sequence vs) := by
  rw [captureAt_of_parts bare (.sequence items) nofun]
  · simp only [parts, keep_of_le few]
  · rcases keeps with rfl | ⟨rfl, -⟩ <;> simp [scalar?, bare.scalarTypes]

/-- A standard map with texts for keys is a dictionary. -/
theorem captureAt_map (bare : c.Bare) (keeps : c.KeepsTexts hint)
    {entries : List (Subject × Subject)} (few : ∀ n ∈ c.limits.itemCount, entries.length ≤ n)
    (levels depth : Nat) :
    c.captureAt (Subject.host objects) levels depth
        (.plain typeName (.map ⟨Standard.text, false, false⟩ true entries)) hint =
      (Outcome.each (entry (c.nestedAt (Subject.host objects) levels depth) hint) entries).bind
        fun es => .pure (.dictionary (es.filterMap id)) := by
  rw [captureAt_of_parts bare (.map ⟨Standard.text, false, false⟩ true entries) nofun]
  · have key : TypeDesc.isKey c.scalarTypes ⟨Standard.text, false, false⟩ = true := by
      simp [TypeDesc.isKey, Standard.scalars, Standard.texts, Standard.text]
    simp only [parts, isDictionary, Bool.true_or, Bool.true_and, key, if_true, keep_of_le few]
  · rcases keeps with rfl | ⟨rfl, -⟩ <;> simp [scalar?, bare.scalarTypes]

/-- A document no higher than the levels at hand is captured whole and without a report. -/
theorem captureAt_document (bare : c.Bare) (keeps : c.KeepsTexts hint) {d : Json.Document}
    (bounded : Json.Bounded c.limits.itemCount d) {levels : Nat} (fits : d.height ≤ levels + 1)
    (depth : Nat) :
    c.captureAt (Subject.host objects) levels depth
      (.ofDocument ⟨typeName, Standard.text⟩ d) hint = .pure d.value := by
  induction bounded generalizing levels depth with
  | null => exact captureAt_of_scalar? .null nofun rfl levels depth
  | bool b => exact captureAt_scalar keeps _ levels depth
  | integer _ _ => exact captureAt_scalar keeps _ levels depth
  | string s => exact captureAt_text keeps s levels depth
  | @array items few _ ih =>
    have item (d) (mem : d ∈ items) :
        (c.nestedAt (Subject.host objects) levels depth).value
          (.ofDocument ⟨typeName, Standard.text⟩ d) hint = .pure d.value := by
      -- Where there is an item, there is a level left for it.
      have lower : d.height ≤ levels :=
        (Json.height_le_itemsHeight mem).trans (Nat.le_of_succ_le_succ fits)
      obtain ⟨levels, rfl⟩ := Nat.exists_eq_add_one_of_ne_zero (d.height_pos.trans_le lower).ne'
      exact ih d mem lower (depth + 1)
    rw [Subject.ofDocument, ofItems_eq,
      captureAt_sequence bare keeps (by simpa only [List.length_map] using few),
      Outcome.each_map item, Outcome.pure_bind, Json.Document.value, Json.itemValues_eq]
  | @object members few sorted _ ih =>
    have member (m) (mem : m ∈ members) :
        entry (c.nestedAt (Subject.host objects) levels depth) hint
          (.plain Standard.text (.text m.1), .ofDocument ⟨typeName, Standard.text⟩ m.2) =
          .pure (some (.string m.1, m.2.value)) := by
      have lower : m.2.height ≤ levels :=
        (Json.height_le_membersHeight mem).trans (Nat.le_of_succ_le_succ fits)
      obtain ⟨levels, rfl⟩ :=
        Nat.exists_eq_add_one_of_ne_zero (m.2.height_pos.trans_le lower).ne'
      have key : c.captureAt (Subject.host objects) levels (depth + 1)
          (.plain Standard.text (.text m.1)) hint = .pure (.scalar (.string m.1)) :=
        captureAt_text keeps m.1 levels (depth + 1)
      have value := ih m mem lower (depth + 1)
      simp only [entry, nestedAt, partsAt, key, value, Outcome.pure_bind]
      rfl
    rw [Subject.ofDocument_object _ sorted,
      captureAt_map bare keeps (by simpa only [List.length_map] using few),
      Outcome.each_map member, Outcome.pure_bind, Json.Document.value, Json.entryValues_eq,
      List.filterMap_map]
    exact congrArg (fun kept => Outcome.pure (Value.dictionary (kept members)))
      List.filterMap_eq_map'

end Bare

/-- A document within the limits is captured without a report, and the JSON text of what it is
captured as reads as the document: nothing is lost, and its members keep their order. -/
theorem parse_capture_document (c : Converter Subject) (objects : Int → Linked)
    (typeName tagName : String) (d : Json.Document) (hint : Hint) (bare : c.Bare)
    (keeps : c.KeepsTexts hint) (bounded : Json.Bounded c.limits.itemCount d)
    (fits : d.height ≤ max 1 c.limits.depth) :
    ∃ v, c.capture (Subject.host objects) (.ofDocument ⟨typeName, Standard.text⟩ d) hint =
        .pure v ∧
      Json.Document.parse? (v.json tagName) = some d := by
  have levels : d.height ≤ (c.limits.depth - 1) + 1 := by omega
  refine ⟨d.value, captureAt_document bare keeps bounded levels 1, ?_⟩
  have reads := Json.reads_json tagName d.value
  rw [bounded.document_value tagName] at reads
  exact Json.parse?_of_reads reads

/-- Three levels, and three members where there are most. -/
def nestedDocument : Json.Document :=
  .object [("a", .array [.null, .number (.integer 18446744073709551615), .object []]),
    ("b", .string "A long text."), ("c", .number (.integer (-9223372036854775808)))]

theorem parse_capture_nestedDocument :
    let c : Converter Subject := { limits := { depth := 3, itemCount := some 3 } }
    (c.Bare ∧ c.KeepsTexts .destructure ∧ Json.Bounded c.limits.itemCount nestedDocument ∧
      nestedDocument.height ≤ max 1 c.limits.depth) ∧
    ∃ v, c.capture Subject.rings
          (.ofDocument ⟨"serde_json::value::Value", Standard.text⟩ nestedDocument) .destructure =
        .pure v ∧
      Json.Document.parse? (v.json Json.defaultTagName) = some nestedDocument := by
  intro c
  have bare : c.Bare := ⟨rfl, rfl, rfl⟩
  have keeps : c.KeepsTexts .destructure := .inr ⟨rfl, rfl⟩
  have bounded : Json.Bounded c.limits.itemCount nestedDocument := by
    have items : Json.Bounded (some 3)
        (.array [.null, .number (.integer 18446744073709551615), .object []]) := by
      apply Json.Bounded.array (by simp)
      simp only [List.forall_mem_cons]
      exact ⟨.null, .integer (by decide) (by decide),
        .object (by simp) .nil (List.forall_mem_nil _), List.forall_mem_nil _⟩
    apply Json.Bounded.object (by simp [c]) (by decide)
    simp only [List.forall_mem_cons]
    exact ⟨items, .string _, .integer (by decide) (by decide), List.forall_mem_nil _⟩
  have fits : nestedDocument.height ≤ max 1 c.limits.depth := by decide
  exact ⟨⟨bare, keeps, bounded, fits⟩,
    parse_capture_document c _ _ _ nestedDocument .destructure bare keeps bounded fits⟩

end Converter

end Capture

end StructuredLog

import StructuredLog.Proofs.Json.Value

/-!
JSON texts stand on one line: they have no control characters, whatever the strings in them hold.
-/

namespace StructuredLog.Json

def PrintedChar (c : Char) : Prop := 0x20 ≤ c.toNat

/-- Without control characters. -/
def Printed (s : String) : Prop := ∀ c ∈ s.toList, PrintedChar c

instance (c : Char) : Decidable (PrintedChar c) := inferInstanceAs (Decidable (_ ≤ _))

instance (s : String) : Decidable (Printed s) := List.decidableBAll PrintedChar s.toList

theorem Printed.notMem_newline {s : String} (printed : Printed s) : '\n' ∉ s.toList := by
  intro mem
  have bound : PrintedChar '\n' := printed '\n' mem
  contradiction

theorem Printed.append {s t : String} (left : Printed s) (right : Printed t) :
    Printed (s ++ t) := by
  unfold Printed
  rw [String.toList_append]
  exact List.forall_mem_append.mpr ⟨left, right⟩

theorem printed_comma : Printed "," := by decide

theorem printed_colon : Printed ":" := by decide

theorem printed_intercalate {texts : List String} (all : ∀ s ∈ texts, Printed s) :
    Printed (",".intercalate texts) := by
  induction texts with
  | nil => decide
  | cons s texts ih =>
    rw [List.forall_mem_cons] at all
    cases texts with
    | nil =>
      rw [String.intercalate_singleton]
      exact all.1
    | cons t texts =>
      rw [String.intercalate_cons_cons]
      exact (all.1.append printed_comma).append (ih all.2)

/-! ### Strings -/

theorem printedChar_hexDigit {n : Nat} (digit : n < 16) : PrintedChar (Text.hexDigit n) := by
  have all : ∀ n ∈ List.range 16, PrintedChar (Text.hexDigit n) := by decide
  exact all n (List.mem_range.mpr digit)

theorem printedChar_of_mem_escape {c d : Char} (mem : d ∈ escape c) : PrintedChar d := by
  unfold escape at mem
  split at mem
  case h_7 =>
    split at mem
    · next control =>
      have high := printedChar_hexDigit (by omega : c.toNat / 16 < 16)
      have low := printedChar_hexDigit (by omega : c.toNat % 16 < 16)
      simp only [List.mem_cons, List.not_mem_nil, or_false] at mem
      rcases mem with rfl | rfl | rfl | rfl | rfl | rfl
      all_goals first | assumption | decide
    · next printed =>
      rw [List.mem_singleton.mp mem]
      exact Nat.not_lt.mp printed
  all_goals
    rcases List.mem_pair.mp mem with rfl | rfl <;> decide

theorem printed_quoted (s : String) : Printed (quoted s) := by
  unfold Printed
  rw [toList_quoted, List.forall_mem_cons, List.forall_mem_append]
  refine ⟨by decide, fun d mem => ?_, List.forall_mem_singleton.mpr (by decide)⟩
  obtain ⟨c, -, escaped⟩ := List.mem_flatMap.mp mem
  exact printedChar_of_mem_escape escaped

/-! ### Numbers -/

theorem NumberChar.printed {c : Char} (number : NumberChar c) : PrintedChar c := by
  rcases number with digit | rfl | rfl
  · exact (plainChar_of_isDigit digit).2.2
  · decide
  · decide

/-! ### Values -/

theorem ScalarText.printed {text : String} {d : Document} (scalar : ScalarText text d) :
    Printed text := by
  cases scalar with
  | null => decide
  | bool b => cases b <;> decide
  | number chars => exact fun c mem => (chars c mem).printed
  | string s => exact printed_quoted s

theorem printed_member {name text : String} (printed : Printed text) :
    Printed (quoted name ++ ":" ++ text) :=
  ((printed_quoted name).append printed_colon).append printed

theorem printed_between {opening closing : String} {texts : List String}
    (opens : Printed opening) (closes : Printed closing) (all : ∀ s ∈ texts, Printed s) :
    Printed (opening ++ ",".intercalate texts ++ closing) :=
  (opens.append (printed_intercalate all)).append closes

theorem printed_object {members : List String} (all : ∀ s ∈ members, Printed s) :
    Printed ("\x7b" ++ ",".intercalate members ++ "\x7d") :=
  printed_between (by decide) (by decide) all

mutual

theorem printed_json (tagName : String) : (v : Value) → Printed (v.json tagName)
  | .scalar s => (scalarText s).printed
  | .sequence items => by
    rw [Value.json]
    exact printed_between (by decide) (by decide) (printed_itemJsons tagName items)
  | .record tag members => by
    rw [Value.json]
    apply printed_object
    rw [List.forall_mem_append]
    constructor
    · exact printed_memberJsons tagName members
    · cases tag with
      | none => exact List.forall_mem_nil _
      | some t => exact List.forall_mem_singleton.mpr (printed_member (printed_quoted t))
  | .dictionary entries => by
    rw [Value.json]
    exact printed_object (printed_entryJsons tagName entries)

theorem printed_itemJsons (tagName : String) : (vs : List Value) →
    ∀ s ∈ itemJsons tagName vs, Printed s
  | [] => List.forall_mem_nil _
  | v :: vs => List.forall_mem_cons.mpr ⟨printed_json tagName v, printed_itemJsons tagName vs⟩

theorem printed_memberJsons (tagName : String) : (ms : List (String × Value)) →
    ∀ s ∈ memberJsons tagName ms, Printed s
  | [] => List.forall_mem_nil _
  | (_, v) :: ms =>
    List.forall_mem_cons.mpr
      ⟨printed_member (printed_json tagName v), printed_memberJsons tagName ms⟩

theorem printed_entryJsons (tagName : String) : (es : List (Scalar × Value)) →
    ∀ s ∈ entryJsons tagName es, Printed s
  | [] => List.forall_mem_nil _
  | (_, v) :: es =>
    List.forall_mem_cons.mpr
      ⟨printed_member (printed_json tagName v), printed_entryJsons tagName es⟩

end

end StructuredLog.Json

import StructuredLog.Proofs.Capture.Registration

/-!
The names that records are tagged with. A record is tagged with what is taken for the name of its
type in any case, unless that is the name of a closure or the type is marked.
-/

namespace StructuredLog.Capture

namespace Converter

/-- An object is captured as a record that is tagged by its type. -/
theorem exists_record_of_object {c : Converter α} (noPolicies : c.policies = []) {h : Host α}
    {a : α} {members : List (Member α)} (shape : (h.inside a).shape = .object members)
    (unregistered : c.scalarTypes.contains (h.inside a).registeredAs = false) {v : Value}
    (ok : (c.capture h a .destructure).result = .ok v) :
    ∃ ms, v = .record (if (h.inside a).type.isCompilerGenerated then none
      else some (h.inside a).type.name) ms := by
  have assembled := assembled_of_no_atom noPolicies (atom?_object shape unregistered) ok
  rw [shape] at assembled
  cases assembled with
  | record all => exact ⟨_, rfl⟩

end Converter

namespace TypePath

/-- The name of a type is that of the segment which the first arguments follow, or of the last one,
and is empty after a qualified self. So it is the last segment's where no arguments stand before
that one, and otherwise only where the two segments agree. The type counts as written by no one
where that name, and not the last segment's, is a closure's, or where the type is marked; only then
has the record of an object no tag. -/
theorem name_of_path {t : TypeDesc} {p : TypePath} (isPath : t.fullName = String.ofList p.text) :
    t.name = String.ofList p.shown ∧
    (t.name = String.ofList p.last.name.text ↔
      p.self? = none ∧ p.opening.name = p.last.name) ∧
    ((∀ s ∈ p.before, s.arguments? = none) → p.opening = p.last) ∧
    (t.isCompilerGenerated = true ↔
      t.anonymous = true ∨ p.self? = none ∧ p.opening.name = .closure) ∧
    ∀ (α : Type) (c : Converter α) (h : Host α) (a : α) (members : List (Member α)) (v : Value),
      c.policies = [] → (h.inside a).type = t → (h.inside a).shape = .object members →
      c.scalarTypes.contains (h.inside a).registeredAs = false →
      (c.capture h a .destructure).result = .ok v →
      ∃ ms, v =
        .record (if t.isCompilerGenerated then none else some (String.ofList p.shown)) ms := by
  refine ⟨name_eq_shown isPath, name_eq_last_iff isPath, opening_eq_last,
    isCompilerGenerated_iff isPath, ?_⟩
  rintro α c h a members v noPolicies rfl shape unregistered ok
  rw [← name_eq_shown isPath]
  exact Converter.exists_record_of_object noPolicies shape unregistered ok

/-! ### Arguments before the last segment -/

def shop : Segment := ⟨identifier ['s', 'h', 'o', 'p'] (by simp [separators]), none⟩

/-- A generic function of the shop. -/
def totals : Segment :=
  ⟨identifier ['s', 'u', 'm'] (by simp [separators]), arguments ['u', '8'] (by simp)⟩

/-- A closure that is written in the function. -/
def adder : TypePath where
  before := [shop, totals]
  last := ⟨.closure, none⟩

def adderType : TypeDesc where
  fullName := "shop::sum<u8>::\x7b\x7bclosure\x7d\x7d"

def adderObject : Subject :=
  .plain adderType.fullName
    (.object [.property "A" (.field (.plain "bool" (.scalar (.bool true))))])

/-- What an implementation of a trait has for one of its types. -/
def output : TypePath where
  self? := some (arguments ['u', '8', ' ', 'a', 's', ' ', 'A', 'd', 'd'] (by simp))
  last := ⟨identifier ['O', 'u', 't'] (by simp [separators]), none⟩

theorem name_of_adder :
    adderType.fullName = String.ofList adder.text ∧ adderType.name = "sum" ∧
    adderType.name ≠ String.ofList adder.last.name.text ∧
    ∃ ms, (({} : Converter Subject).capture Subject.rings adderObject .destructure).result =
      .ok (.record (some "sum") ms) := by
  have isPath : adderType.fullName = String.ofList adder.text := by decide +kernel
  obtain ⟨name, last, -, generated, tagged⟩ := name_of_path isPath
  have shown : String.ofList adder.shown = "sum" := by decide +kernel
  have opening : adder.opening.name ≠ .closure := nofun
  have noneWrote : ¬adderType.isCompilerGenerated = true := by
    rw [generated]
    rintro (marked | ⟨-, same⟩)
    · contradiction
    · exact opening same
  have inside : Subject.rings.inside adderObject = _ := Subject.inside_plain _ _ nofun
  obtain ⟨v, ok⟩ :=
    Converter.exists_result (c := {}) rfl rfl Subject.rings 9 1 adderObject .destructure
  obtain ⟨ms, rfl⟩ := tagged Subject {} Subject.rings adderObject _ v rfl
    (by rw [inside]; rfl) (by rw [inside]) rfl ok
  rw [if_neg noneWrote, shown] at ok
  exact ⟨isPath, name.trans shown, mt last.mp fun same => opening same.2, ms, ok⟩

/-- A closure's type is named by the function around it, and a type of an implementation has an
empty name; neither counts as written by no one, so that their records are tagged. -/
theorem closure_named_by_function :
    (adder.last.name = .closure ∧ adderType.fullName = String.ofList adder.text ∧
      adderType.name ≠ String.ofList adder.last.name.text ∧
      adderType.isCompilerGenerated = false ∧
      (({} : Converter Subject).capture Subject.rings adderObject .destructure).result.map
        (·.text .none none) = .ok "sum \x7b A: true \x7d") ∧
    let t : TypeDesc := { fullName := String.ofList output.text }
    output.self?.isSome = true ∧ t.name ≠ String.ofList output.last.name.text ∧
      t.isCompilerGenerated = false := by
  refine ⟨⟨rfl, ?_, ?_, ?_, ?_⟩, rfl, ?_, ?_⟩
  all_goals decide +kernel

end TypePath

end StructuredLog.Capture

import StructuredLog.Proofs.Capture.Reach

/-!
Strict and lenient captures. Both walk the same way up to the first property that cannot be read.
There the strict one ends with an error, and the lenient one puts a text in its place and goes on.
-/

namespace StructuredLog.Capture

/-- A lenient and a strict outcome of one capture that meets the failures in `reached`. -/
inductive Agrees (reached : CaptureError → Prop) : Outcome β → Outcome β → Prop
  | calm {log calls v} :
      (∀ d ∈ log, d.isAccessFailure = false) →
      Agrees reached ⟨log, calls, .ok v⟩ ⟨log, calls, .ok v⟩
  /-- The lenient outcome goes on after the first failure, the strict one ends there. -/
  | fails {before after reported made more e v} :
      (∀ d ∈ before, d.isAccessFailure = false) → reached e →
      (∀ d ∈ after, d.isAccessFailure = true → ∃ e, reached e ∧ e.diagnostic = d) →
      Agrees reached ⟨before ++ e.diagnostic :: after, made ++ more, .ok v⟩
        ⟨before ++ e.diagnostic :: reported, made, .error e⟩

namespace Agrees

variable {reached : CaptureError → Prop} {l s : Outcome β}

theorem pure (b : β) : Agrees reached (.pure b) (.pure b) := .calm (by simp)

theorem total (agrees : Agrees reached l s) : ∃ v, l.result = .ok v := by
  cases agrees <;> exact ⟨_, rfl⟩

/-- Every failure in the lenient log is one of those that the capture meets. -/
theorem reached_of_mem (agrees : Agrees reached l s) {d : Diagnostic} (mem : d ∈ l.log)
    (failure : d.isAccessFailure = true) : ∃ e, reached e ∧ e.diagnostic = d := by
  cases agrees with
  | calm quiet => simp [quiet d mem] at failure
  | @fails before after _ _ _ e _ quiet own later =>
    rcases List.mem_append.mp mem with inBefore | inRest
    · simp [quiet d inBefore] at failure
    · rcases List.mem_cons.mp inRest with rfl | inAfter
      · exact ⟨e, own, rfl⟩
      · exact later d inAfter failure

theorem mono {reached' : CaptureError → Prop} (wider : ∀ e, reached e → reached' e)
    (agrees : Agrees reached l s) : Agrees reached' l s := by
  cases agrees with
  | calm quiet => exact .calm quiet
  | fails quiet own later =>
    refine .fails quiet (wider _ own) fun d mem failure => ?_
    obtain ⟨e, reachedE, eq⟩ := later d mem failure
    exact ⟨e, wider e reachedE, eq⟩

theorem bind {f g : β → Outcome γ} (first : Agrees reached l s)
    (next : ∀ v, l.result = .ok v → Agrees reached (f v) (g v)) :
    Agrees reached (l.bind f) (s.bind g) := by
  cases first with
  | @calm _ _ v quiet =>
    have rest := next v rfl
    rw [Outcome.bind_ok, Outcome.bind_ok]
    generalize f v = l', g v = s' at rest
    cases rest with
    | calm quiet' =>
      exact .calm fun d mem => (List.mem_append.mp mem).elim (quiet d) (quiet' d)
    | fails quiet' own later =>
      simp only [← List.append_assoc]
      exact .fails (fun d mem => (List.mem_append.mp mem).elim (quiet d) (quiet' d)) own later
  | @fails before after _ _ _ e v quiet own later =>
    have rest := next v rfl
    -- The strict run has ended, so that only what the lenient one reports from here on counts.
    obtain ⟨w, result⟩ := rest.total
    rw [Outcome.bind_ok, Outcome.bind_error, result, List.append_assoc, List.cons_append,
      List.append_assoc]
    refine .fails quiet own fun d mem failure => ?_
    rcases List.mem_append.mp mem with inAfter | inRest
    · exact later d inAfter failure
    · exact rest.reached_of_mem inRest failure

theorem orLog (agrees : Agrees reached l s) (ds : List Diagnostic) :
    Agrees reached (l.orLog ds) (s.orLog ds) := by
  cases agrees with
  | calm quiet => exact .calm quiet
  | fails quiet own later =>
    simp only [Outcome.orLog, List.append_assoc, List.cons_append]
    exact .fails quiet own later

theorem each {f g : α → Outcome β} {as : List α}
    (all : ∀ a ∈ as, Agrees reached (f a) (g a)) :
    Agrees reached (Outcome.each f as) (Outcome.each g as) := by
  induction as with
  | nil => exact .pure _
  | cons a as ih =>
    rw [List.forall_mem_cons] at all
    refine all.1.bind fun b _ => ?_
    exact (ih all.2).bind fun bs _ => .pure _

theorem strict_ok_iff (agrees : Agrees reached l s) :
    (∃ v, s.result = .ok v) ↔ ∀ d ∈ l.log, d.isAccessFailure = false := by
  cases agrees with
  | calm quiet => exact ⟨fun _ => quiet, fun _ => ⟨_, rfl⟩⟩
  | @fails _ _ _ _ _ e _ quiet own later =>
    constructor
    · rintro ⟨_, ok⟩
      contradiction
    · intro quiet
      have failure := quiet e.diagnostic (by simp)
      simp at failure

theorem eq_of_ok (agrees : Agrees reached l s) {v : β} (ok : s.result = .ok v) : s = l := by
  cases agrees with
  | calm quiet => rfl
  | fails => contradiction

/-- The strict error is the first failure in the lenient log. -/
theorem of_error (agrees : Agrees reached l s) {e : CaptureError} (error : s.result = .error e) :
    reached e ∧ l.log.find? Diagnostic.isAccessFailure = some e.diagnostic := by
  cases agrees with
  | calm => contradiction
  | @fails before _ _ _ _ e' _ quiet own later =>
    obtain rfl : e' = e := Except.error.inj error
    refine ⟨own, ?_⟩
    have passed : before.find? Diagnostic.isAccessFailure = none :=
      List.find?_eq_none.mpr fun d mem => by simp [quiet d mem]
    simp [List.find?_append, passed]

end Agrees

namespace Outcome

theorem bind_total {o : Outcome β} {f : β → Outcome γ} (first : ∃ b, o.result = .ok b)
    (next : ∀ b, ∃ w, (f b).result = .ok w) : ∃ w, (o.bind f).result = .ok w := by
  obtain ⟨log, calls, result⟩ := o
  obtain ⟨b, rfl⟩ := first
  exact next b

theorem mem_log_bind_left {o : Outcome β} {f : β → Outcome γ} {d : Diagnostic} (mem : d ∈ o.log) :
    d ∈ (o.bind f).log := by
  obtain ⟨log, calls, result⟩ := o
  cases result with
  | ok b => exact List.mem_append_left _ mem
  | error e => exact mem

theorem mem_log_bind_right {o : Outcome β} {f : β → Outcome γ} {d : Diagnostic} {b : β}
    (ok : o.result = .ok b) (mem : d ∈ (f b).log) : d ∈ (o.bind f).log := by
  obtain ⟨log, calls, result⟩ := o
  subst ok
  exact List.mem_append_right _ mem

theorem mem_log_each {f : α → Outcome β} {as : List α} {a : α} {d : Diagnostic}
    (total : ∀ a, ∃ b, (f a).result = .ok b) (mem : a ∈ as) (reported : d ∈ (f a).log) :
    d ∈ (each f as).log := by
  induction as with
  | nil => simp at mem
  | cons a' as ih =>
    rcases List.mem_cons.mp mem with rfl | later
    · exact mem_log_bind_left reported
    · obtain ⟨b, ok⟩ := total a'
      exact mem_log_bind_right ok (mem_log_bind_left (ih later))

end Outcome

namespace Converter

/-! ### One step -/

section Step

variable {c : Converter α} {transforms : List (α → Option α)} {h : Host α} {a : α} {hint : Hint}
variable {reached : CaptureError → Prop} {lenient strict : Nested α}

/-- A text takes the place of a property without further failures. -/
def TextsAgree (lenient : Nested α) : Prop :=
  ∀ s, ∃ log calls v, lenient.text s = ⟨log, calls, .ok v⟩ ∧ ∀ d ∈ log, d.isAccessFailure = false

theorem source_agrees {typeName name : String} {source : Source α}
    (texts : TextsAgree lenient)
    (supplies : ∀ b, source.value? = some b →
      Agrees reached (lenient.value b .destructure) (strict.value b .destructure))
    (fails : ∀ accessor error, source = .getter accessor (.error error) →
      reached (.accessor typeName name error.text))
    (lacks : source = .unsupported → reached (.unsupported typeName name)) :
    Agrees reached ((c.withTransforms transforms false).source lenient typeName name source)
      ((c.withTransforms transforms true).source strict typeName name source) := by
  -- A failure is reported alike; then one outcome has a text and the other an error.
  have failed {e : CaptureError} (own : reached e) (s : String) :
      Agrees reached ((Outcome.emit e.diagnostic).bind fun _ => lenient.text s)
        ((Outcome.emit e.diagnostic).bind fun _ => .fail e) := by
    obtain ⟨log, calls, v, text, quiet⟩ := texts s
    rw [Outcome.emit, Outcome.bind_ok, Outcome.bind_ok, text]
    refine @Agrees.fails _ _ [] _ _ [] _ _ _ (by simp) own fun d mem failure => ?_
    rw [quiet d mem] at failure
    contradiction
  have called (accessor : Nat) : Agrees reached (.call accessor) (.call accessor) :=
    .calm (by simp)
  cases source with
  | field b => exact supplies b rfl
  | getter accessor result =>
    cases result with
    | ok b => exact (called accessor).bind fun _ _ => supplies b rfl
    | error error => exact (called accessor).bind fun _ _ => failed (fails accessor error rfl) _
  | unsupported => exact failed (lacks rfl) _

theorem members_agree {typeName : String} {members : List (Member α)} {taken : List String}
    (sources : ∀ name source, name ∉ taken → First name source members →
      Agrees reached ((c.withTransforms transforms false).source lenient typeName name source)
        ((c.withTransforms transforms true).source strict typeName name source)) :
    Agrees reached ((c.withTransforms transforms false).members lenient typeName members taken)
      ((c.withTransforms transforms true).members strict typeName members taken) := by
  induction members generalizing taken with
  | nil => exact .pure _
  | cons member members ih =>
    cases member with
    | indexer name =>
      refine Agrees.bind (.calm (by simp [Diagnostic.isAccessFailure])) fun _ _ => ?_
      exact ih fun name source free first => sources name source free (.afterIndexer first)
    | property name source =>
      rw [Converter.members, Converter.members]
      by_cases shadowed : name ∈ taken
      · rw [if_pos (by simpa using shadowed), if_pos (by simpa using shadowed)]
        refine ih fun name' source' free first => sources name' source' free ?_
        exact .afterProperty (fun eq => free (eq ▸ shadowed)) first
      · rw [if_neg (by simpa using shadowed), if_neg (by simpa using shadowed)]
        refine ((sources name source shadowed .here).orLog _).bind fun v _ => ?_
        refine (ih fun name' source' free first => ?_).bind fun rest _ => .pure _
        rw [List.mem_cons, not_or] at free
        exact sources name' source' free.2 (.afterProperty (Ne.symm free.1) first)

theorem parts_agree (byParts : ByParts c transforms h a hint) (texts : TextsAgree lenient)
    (parts : ∀ b hint', Part c transforms h lenient a hint b hint' →
      Agrees reached (lenient.value b hint') (strict.value b hint'))
    (own : hint = .destructure → ∀ e, Fails c transforms h a e → reached e) :
    Agrees reached ((c.withTransforms transforms false).parts lenient (h.inside a) hint)
      ((c.withTransforms transforms true).parts strict (h.inside a) hint) := by
  unfold Converter.parts
  cases shape : (h.inside a).shape with
  | sequence items =>
    exact (Agrees.each fun b mem => parts b hint (.item byParts shape mem)).bind
      fun vs _ => .pure _
  | tuple items =>
    exact (Agrees.each fun b mem => parts b hint (.component byParts shape mem)).bind
      fun vs _ => .pure _
  | map key standard entries =>
    have keyAgrees {e : α × α} (mem : e ∈ c.keep entries) :
        Agrees reached (lenient.value e.1 hint) (strict.value e.1 hint) :=
      parts e.1 hint (.key byParts shape mem)
    have same (strict : Bool) : (c.withTransforms transforms strict).isDictionary (h.inside a) key
        standard = c.isDictionary (h.inside a) key standard := rfl
    simp only [same]
    split
    · refine (Agrees.each fun e mem => ?_).bind fun es _ => .pure _
      refine (keyAgrees mem).bind fun k captured => ?_
      split
      · exact .pure _
      · next notNull =>
        refine Agrees.bind (parts e.2 hint (.entry byParts shape mem fun _ null => ?_))
          fun v _ => .pure _
        rw [captured] at null
        exact notNull (Except.ok.inj null)
    · next noDictionary =>
      refine (Agrees.each fun e mem => ?_).bind fun vs _ => .pure _
      refine (keyAgrees mem).bind fun k _ => ?_
      exact (parts e.2 hint (.entry byParts shape mem fun dictionary =>
        absurd dictionary noDictionary)).bind fun v _ => .pure _
  | object members =>
    dsimp only
    split
    · next destructure =>
      subst destructure
      refine (members_agree fun name source _ first => ?_).bind fun vs _ => .pure _
      refine source_agrees texts (fun b supplied => ?_) (fun accessor error eq => ?_) fun eq => ?_
      · exact parts b .destructure (.member byParts shape first supplied)
      · exact own rfl _ (.getter byParts shape (eq ▸ first))
      · exact own rfl _ (.unsupported byParts shape (eq ▸ first))
    · exact .pure _
  | _ => exact .pure _

/-- A step agrees if the parts of the value do. -/
theorem step_agrees (texts : TextsAgree lenient)
    (parts : ∀ b hint', Part c transforms h lenient a hint b hint' →
      Agrees reached (lenient.value b hint') (strict.value b hint'))
    (own : hint = .destructure → ∀ e, Fails c transforms h a e → reached e) :
    Agrees reached ((c.withTransforms transforms false).step h lenient a hint)
      ((c.withTransforms transforms true).step h strict a hint) := by
  rcases scalar_or_substitute_or_byParts c transforms h a hint with
    ⟨s, scalar⟩ | ⟨rfl, noScalar, b, substitute⟩ | byParts
  · rw [step_of_scalar lenient false scalar, step_of_scalar strict true scalar]
    exact .pure _
  · rw [step_of_substitute lenient false noScalar substitute,
      step_of_substitute strict true noScalar substitute]
    exact parts b .destructure (.substitute noScalar substitute)
  · rw [step_of_byParts lenient false byParts, step_of_byParts strict true byParts]
    exact parts_agree byParts texts parts own

end Step

/-! ### The whole walk -/

section Walk

variable (c : Converter α) (transforms : List (α → Option α)) (h : Host α)

theorem captureAt_agrees (levels depth : Nat) (a : α) (hint : Hint) :
    Agrees (Reaches c transforms h levels depth a hint)
      ((c.withTransforms transforms false).captureAt h levels depth a hint)
      ((c.withTransforms transforms true).captureAt h levels depth a hint) := by
  induction levels generalizing depth a hint with
  | zero =>
    -- Parts are cut off in both runs, which leaves the value's own accessors.
    rw [captureAt, captureAt]
    refine step_agrees (fun s => ⟨_, _, _, rfl, by simp [Diagnostic.isAccessFailure]⟩)
      (fun b hint' _ => .calm (by simp [Diagnostic.isAccessFailure])) ?_
    rintro rfl e own
    exact .own own
  | succ levels ih =>
    rw [captureAt, captureAt]
    refine step_agrees (fun s => ⟨[], [], _, rfl, by simp⟩) (fun b hint' part => ?_) ?_
    · exact (ih (depth + 1) b hint').mono fun e deeper => .deeper part deeper
    · rintro rfl e own
      exact .own own

end Walk

/-- Without policies a capture that replaces what cannot be read has a result. -/
theorem exists_result {c : Converter α} (lenient : c.strict = false) (noPolicies : c.policies = [])
    (h : Host α) (levels depth : Nat) (a : α) (hint : Hint) :
    ∃ v, (c.captureAt h levels depth a hint).result = .ok v := by
  have total := (captureAt_agrees c [] h levels depth a hint).total
  rw [← lenient, withTransforms_nil noPolicies] at total
  exact total

/-! ### All that is reached is reported -/

section Reported

variable {c : Converter α} {transforms : List (α → Option α)} {h : Host α} {a : α} {hint : Hint}

/-- No part of a value ends the capture. -/
structure Total (nested : Nested α) : Prop where
  value : ∀ b hint, ∃ v, (nested.value b hint).result = .ok v
  text : ∀ s, ∃ v, (nested.text s).result = .ok v

theorem below_total (c : Converter α) (transforms : List (α → Option α)) (h : Host α)
    (levels depth : Nat) : Total (below c transforms h levels depth) where
  value b hint := (captureAt_agrees c transforms h levels (depth + 1) b hint).total
  text _ := ⟨_, rfl⟩

theorem cutOff_total (depth : Nat) : Total (.cutOff depth : Nested α) where
  value _ _ := ⟨_, rfl⟩
  text _ := ⟨_, rfl⟩

variable {nested : Nested α}

theorem source_total (c : Converter α) (transforms : List (α → Option α)) (total : Total nested)
    (typeName name : String) (source : Source α) :
    ∃ v, ((c.withTransforms transforms false).source nested typeName name source).result =
      .ok v := by
  cases source with
  | field b => exact total.value b _
  | getter accessor result =>
    cases result with
    | ok b => exact Outcome.bind_total ⟨_, rfl⟩ fun _ => total.value b _
    | error error =>
      exact Outcome.bind_total ⟨_, rfl⟩ fun _ => Outcome.bind_total ⟨_, rfl⟩ fun _ => total.text _
  | unsupported => exact total.text _

/-- What the first property of a name reports, its object reports. -/
theorem mem_log_members (total : Total nested) {typeName name : String} {source : Source α}
    {members : List (Member α)} (first : First name source members) {d : Diagnostic}
    (reported : d ∈
      ((c.withTransforms transforms false).source nested typeName name source).log)
    {taken : List String} (free : name ∉ taken) :
    d ∈ ((c.withTransforms transforms false).members nested typeName members taken).log := by
  induction first generalizing taken with
  | here =>
    rw [Converter.members, if_neg (by simpa using free)]
    obtain ⟨v, ok⟩ := source_total c transforms total typeName name source
    exact Outcome.mem_log_bind_left (by simpa only [Outcome.orLog, ok] using reported)
  | afterIndexer _ ih =>
    rw [Converter.members]
    exact Outcome.mem_log_bind_right rfl (ih free)
  | @afterProperty other source' members ne _ ih =>
    rw [Converter.members]
    split
    · exact ih free
    · obtain ⟨v, ok⟩ := source_total c transforms total typeName other source'
      refine Outcome.mem_log_bind_right (b := v) (by simp only [Outcome.orLog, ok]) ?_
      exact Outcome.mem_log_bind_left (ih (by simp [ne.symm, free]))

theorem mem_log_object {members : List (Member α)} (total : Total nested)
    (byParts : ByParts c transforms h a .destructure) (shape : (h.inside a).shape = .object members)
    {name : String} {source : Source α} (first : First name source members) {d : Diagnostic}
    (reported : d ∈ ((c.withTransforms transforms false).source nested
      (h.inside a).type.fullName name source).log) :
    d ∈ ((c.withTransforms transforms false).step h nested a .destructure).log := by
  rw [step_of_byParts nested false byParts, Converter.parts, shape]
  simp only [if_true]
  exact Outcome.mem_log_bind_left (mem_log_members total first reported (by simp))

theorem entry_total (total : Total nested) (hint : Hint) (e : α × α) :
    ∃ v, (entry nested hint e).result = .ok v := by
  refine Outcome.bind_total (total.value e.1 hint) fun key => ?_
  split
  · exact ⟨_, rfl⟩
  · exact Outcome.bind_total (total.value e.2 hint) fun v => ⟨_, rfl⟩

theorem pair_total (total : Total nested) (hint : Hint) (e : α × α) :
    ∃ v, (pair nested hint e).result = .ok v :=
  Outcome.bind_total (total.value e.1 hint) fun _ =>
    Outcome.bind_total (total.value e.2 hint) fun _ => ⟨_, rfl⟩

/-- What an entry of a map reports as a dictionary's or as a pair, its map reports. -/
theorem mem_log_map {key : TypeDesc} {standard : Bool} {entries : List (α × α)} {e : α × α}
    (total : Total nested) (byParts : ByParts c transforms h a hint)
    (shape : (h.inside a).shape = .map key standard entries) (mem : e ∈ c.keep entries)
    {d : Diagnostic}
    (inEntry : c.isDictionary (h.inside a) key standard = true → d ∈ (entry nested hint e).log)
    (inPair : d ∈ (pair nested hint e).log) :
    d ∈ ((c.withTransforms transforms false).step h nested a hint).log := by
  rw [step_of_byParts nested false byParts, Converter.parts, shape]
  dsimp only
  split
  · next dictionary =>
    exact Outcome.mem_log_bind_left
      (Outcome.mem_log_each (entry_total total hint) mem (inEntry dictionary))
  · exact Outcome.mem_log_bind_left (Outcome.mem_log_each (pair_total total hint) mem inPair)

/-- A part of a value reports through the value. -/
theorem Part.mem_log (total : Total nested) {b : α} {hint' : Hint}
    (part : Part c transforms h nested a hint b hint') {d : Diagnostic}
    (reported : d ∈ (nested.value b hint').log) :
    d ∈ ((c.withTransforms transforms false).step h nested a hint).log := by
  cases part with
  | substitute noScalar substitute =>
    rw [step_of_substitute nested false noScalar substitute]
    exact reported
  | item byParts shape mem =>
    rw [step_of_byParts nested false byParts, Converter.parts, shape]
    exact Outcome.mem_log_bind_left
      (Outcome.mem_log_each (fun b => total.value b _) mem reported)
  | component byParts shape mem =>
    rw [step_of_byParts nested false byParts, Converter.parts, shape]
    exact Outcome.mem_log_bind_left
      (Outcome.mem_log_each (fun b => total.value b _) mem reported)
  | key byParts shape mem =>
    exact mem_log_map total byParts shape mem
      (fun _ => Outcome.mem_log_bind_left reported) (Outcome.mem_log_bind_left reported)
  | @entry _ key standard entries k v byParts shape mem notNull =>
    obtain ⟨captured, ok⟩ := total.value k hint
    refine mem_log_map total byParts shape mem (fun dictionary => ?_) ?_
    · refine Outcome.mem_log_bind_right ok ?_
      split
      · exact absurd ok (notNull dictionary)
      · exact Outcome.mem_log_bind_left reported
    · exact Outcome.mem_log_bind_right ok (Outcome.mem_log_bind_left reported)
  | member byParts shape first supplied =>
    refine mem_log_object total byParts shape first ?_
    obtain rfl | ⟨accessor, rfl⟩ := Source.eq_of_value? supplied <;> exact reported

theorem Fails.mem_log (total : Total nested) {e : CaptureError}
    (fails : Fails c transforms h a e) :
    e.diagnostic ∈ ((c.withTransforms transforms false).step h nested a .destructure).log := by
  have emitted (f : Unit → Outcome Value) :
      e.diagnostic ∈ ((Outcome.emit e.diagnostic).bind f).log :=
    Outcome.mem_log_bind_left (by simp [Outcome.emit])
  cases fails with
  | getter byParts shape first =>
    exact mem_log_object total byParts shape first (Outcome.mem_log_bind_right rfl (emitted _))
  | unsupported byParts shape first => exact mem_log_object total byParts shape first (emitted _)

theorem Reaches.mem_log {levels depth : Nat} {e : CaptureError}
    (reaches : Reaches c transforms h levels depth a hint e) :
    e.diagnostic ∈ ((c.withTransforms transforms false).captureAt h levels depth a hint).log := by
  induction reaches with
  | @own levels depth a e fails =>
    cases levels with
    | zero => exact fails.mem_log (cutOff_total depth)
    | succ levels => exact fails.mem_log (below_total c transforms h levels depth)
  | @deeper levels depth a hint b hint' e part _ ih =>
    exact part.mem_log (below_total c transforms h levels depth) ih

end Reported

/-- A lenient capture always has a result. The strict one has the same where the lenient log has no
failure; otherwise its error is the first failure in that log. These failures are those that the
walk reaches, and no other accessor ever makes an error. -/
theorem strict_agrees_with_lenient (c : Converter α) (transforms : List (α → Option α))
    (h : Host α) (a : α) (hint : Hint) :
    let lenient := (c.withTransforms transforms false).capture h a hint
    let strict := (c.withTransforms transforms true).capture h a hint
    let reached := Reaches c transforms h (c.limits.depth - 1) 1 a hint
    (∃ v, lenient.result = .ok v) ∧
    ((∃ v, strict.result = .ok v) ↔ ∀ d ∈ lenient.log, d.isAccessFailure = false) ∧
    ((∃ v, strict.result = .ok v) → strict = lenient) ∧
    (∀ e, strict.result = .error e →
      reached e ∧ lenient.log.find? Diagnostic.isAccessFailure = some e.diagnostic) ∧
    ∀ d, (d ∈ lenient.log ∧ d.isAccessFailure = true) ↔ ∃ e, reached e ∧ e.diagnostic = d := by
  intro lenient strict reached
  have agrees : Agrees reached lenient strict :=
    captureAt_agrees c transforms h (c.limits.depth - 1) 1 a hint
  refine ⟨agrees.total, agrees.strict_ok_iff, ?_, fun e error => agrees.of_error error, ?_⟩
  · rintro ⟨v, ok⟩
    exact agrees.eq_of_ok ok
  · intro d
    constructor
    · rintro ⟨mem, failure⟩
      exact agrees.reached_of_mem mem failure
    · rintro ⟨e, reaches, rfl⟩
      exact ⟨reaches.mem_log, e.isAccessFailure_diagnostic⟩

end Converter

end StructuredLog.Capture

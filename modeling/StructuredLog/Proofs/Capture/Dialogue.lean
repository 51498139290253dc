import StructuredLog.Capture.Converter

/-!
A step of a capture as a dialogue. The step is given a way to capture parts, and uses it only to ask
and to go on with the answer. Written out, its questions form a tree that any way to answer can be
held against, so that what is true of all dialogues is true of each step, and no law has to go
through the shapes of values again.
-/

namespace StructuredLog.Capture

/-- What a step asks to be captured one level deeper: a part, or a text in place of one. -/
inductive Request (α : Type) where
  | value (a : α) (hint : Hint)
  | text (s : String)

def Nested.answer (nested : Nested α) : Request α → Outcome Value
  | .value a hint => nested.value a hint
  | .text s => nested.text s

inductive Dialogue (α β : Type) where
  | done (result : Except CaptureError β)
  | tell (d : Diagnostic) (next : Dialogue α β)
  | call (accessor : Nat) (next : Dialogue α β)
  | ask (r : Request α) (next : Except CaptureError Value → Dialogue α β)

namespace Dialogue

/-- The outcome of a dialogue with given answers. -/
def hold (nested : Nested α) : Dialogue α β → Outcome β
  | done result => ⟨[], [], result⟩
  | tell d next =>
    let rest := next.hold nested
    ⟨d :: rest.log, rest.calls, rest.result⟩
  | call accessor next =>
    let rest := next.hold nested
    ⟨rest.log, accessor :: rest.calls, rest.result⟩
  | ask r next =>
    let answer := nested.answer r
    let rest := (next answer.result).hold nested
    ⟨answer.log ++ rest.log, answer.calls ++ rest.calls, rest.result⟩

protected def bind (f : β → Dialogue α γ) : Dialogue α β → Dialogue α γ
  | done (.ok b) => f b
  | done (.error e) => done (.error e)
  | tell d next => tell d (next.bind f)
  | call accessor next => call accessor (next.bind f)
  | ask r next => ask r fun answer => (next answer).bind f

/-- An error is followed by further diagnostics. -/
def orTell (ds : List Diagnostic) : Dialogue α β → Dialogue α β
  | done (.ok b) => done (.ok b)
  | done (.error e) => ds.foldr tell (done (.error e))
  | tell d next => tell d (next.orTell ds)
  | call accessor next => call accessor (next.orTell ds)
  | ask r next => ask r fun answer => (next answer).orTell ds

section Hold

variable (nested : Nested α)

theorem hold_bind (f : β → Dialogue α γ) (dialogue : Dialogue α β) :
    (dialogue.bind f).hold nested = (dialogue.hold nested).bind fun b => (f b).hold nested := by
  induction dialogue with
  | done result => cases result <;> rfl
  | tell d next ih | call accessor next ih =>
    rw [Dialogue.bind, hold, ih, hold]
    cases result : (next.hold nested).result <;> simp [Outcome.bind, result]
  | ask r next ih =>
    rw [Dialogue.bind, hold, ih, hold]
    cases result : ((next (nested.answer r).result).hold nested).result <;>
      simp [Outcome.bind, result]

theorem hold_foldr_tell (ds : List Diagnostic) (dialogue : Dialogue α β) :
    (ds.foldr tell dialogue).hold nested =
      ⟨ds ++ (dialogue.hold nested).log, (dialogue.hold nested).calls,
        (dialogue.hold nested).result⟩ := by
  induction ds with
  | nil => rfl
  | cons d ds ih => rw [List.foldr_cons, hold, ih, List.cons_append]

theorem hold_orTell (ds : List Diagnostic) (dialogue : Dialogue α β) :
    (dialogue.orTell ds).hold nested = (dialogue.hold nested).orLog ds := by
  induction dialogue with
  | done result =>
    cases result with
    | ok b => rfl
    | error e =>
      rw [orTell, hold_foldr_tell]
      simp [hold, Outcome.orLog]
  | tell d next ih | call accessor next ih =>
    rw [orTell, hold, ih, hold]
    cases result : (next.hold nested).result <;> simp [Outcome.orLog, result]
  | ask r next ih =>
    rw [orTell, hold, ih, hold]
    cases result : ((next (nested.answer r).result).hold nested).result <;>
      simp [Outcome.orLog, result]

end Hold

end Dialogue

/-- A dialogue that a computation at some depth holds. As the outcomes agree whatever the answers
are, it asks what the computation asks, in the same order. -/
structure Scripted (depth : Nat) (f : Nested α → Outcome β) where
  dialogue : Dialogue α β
  follows : ∀ nested, nested.depth = depth → dialogue.hold nested = f nested

namespace Scripted

section Laws

variable {depth : Nat} {f g : Nested α → Outcome β}

def congr (scripted : Scripted depth f) (same : ∀ nested, f nested = g nested) :
    Scripted depth g where
  dialogue := scripted.dialogue
  follows nested here := (scripted.follows nested here).trans (same nested)

protected def pure (b : β) : Scripted depth fun _ : Nested α => .pure b :=
  ⟨.done (.ok b), fun _ _ => rfl⟩

def fail (e : CaptureError) : Scripted depth fun _ : Nested α => (.fail e : Outcome β) :=
  ⟨.done (.error e), fun _ _ => rfl⟩

def emit (d : Diagnostic) : Scripted depth fun _ : Nested α => .emit d :=
  ⟨.tell d (.done (.ok ())), fun _ _ => rfl⟩

def call (accessor : Nat) : Scripted depth fun _ : Nested α => .call accessor :=
  ⟨.call accessor (.done (.ok ())), fun _ _ => rfl⟩

def answer (r : Request α) : Scripted depth fun nested : Nested α => nested.answer r where
  dialogue := .ask r .done
  follows nested _ := by rw [Dialogue.hold, Dialogue.hold, List.append_nil, List.append_nil]

protected def bind {next : β → Nested α → Outcome γ} (first : Scripted depth f)
    (rest : (b : β) → Scripted depth (next b)) :
    Scripted depth fun nested => (f nested).bind fun b => next b nested where
  dialogue := first.dialogue.bind fun b => (rest b).dialogue
  follows nested here := by
    rw [Dialogue.hold_bind, first.follows nested here]
    congr 1
    funext b
    exact (rest b).follows nested here

def orLog (scripted : Scripted depth f) (ds : List Diagnostic) :
    Scripted depth fun nested => (f nested).orLog ds where
  dialogue := scripted.dialogue.orTell ds
  follows nested here := by rw [Dialogue.hold_orTell, scripted.follows nested here]

def ite (p : Prop) [Decidable p] (yes : Scripted depth f) (no : Scripted depth g) :
    Scripted depth fun nested => if p then f nested else g nested :=
  if h : p then yes.congr fun _ => (if_pos h).symm else no.congr fun _ => (if_neg h).symm

def each {f : δ → Nested α → Outcome β} (scripted : (x : δ) → Scripted depth (f x)) :
    (xs : List δ) → Scripted depth fun nested => Outcome.each (f · nested) xs
  | [] => .pure []
  | x :: xs => (scripted x).bind fun b => (each scripted xs).bind fun bs => .pure (b :: bs)

end Laws

variable (depth : Nat)

/-- A plan is a dialogue already, but for the texts that it never asks for. -/
def plan : (p : Plan α) → Scripted depth fun nested => p.run nested.value
  | .pass => .pure none
  | .done v => .pure (some v)
  | .fail e => .fail e
  | .report text next => (emit (.note text)).bind fun _ => plan next
  | .ask a hint next => {
      dialogue := .ask (.value a hint) fun result => (plan (next result)).dialogue
      follows := fun nested here => by
        rw [Dialogue.hold, Plan.run]
        simp only [(plan (next _)).follows nested here]
        rfl }

def consult (a : α) : (policies : List (Policy α)) →
    Scripted depth fun nested => nested.consult a policies
  | [] => .pure none
  | p :: ps => {
      dialogue := (plan depth (p depth a)).dialogue.bind fun
        | some v => .done (.ok (some v))
        | none => (consult a ps).dialogue
      follows := fun nested here => by
        rw [Dialogue.hold_bind, (plan depth (p depth a)).follows nested here, Nested.consult, here]
        congr 1
        funext answer
        cases answer with
        | some v => rfl
        | none => exact (consult a ps).follows nested here }

section Converter

variable (c : Converter α)

def source (typeName name : String) : (source : Source α) →
    Scripted depth fun nested => c.source nested typeName name source
  | .field a => answer (.value a .destructure)
  | .getter accessor (.ok a) => (call accessor).bind fun _ => answer (.value a .destructure)
  | .getter accessor (.error _) => (call accessor).bind fun _ =>
    (emit _).bind fun _ => ite _ (fail _) (answer (.text _))
  | .unsupported => (emit _).bind fun _ => ite _ (fail _) (answer (.text _))

def members (typeName : String) : (ms : List (Member α)) → (taken : List String) →
    Scripted depth fun nested => c.members nested typeName ms taken
  | [], _ => .pure []
  | .indexer _ :: ms, taken => (emit _).bind fun _ => members typeName ms taken
  | .property name s :: ms, taken =>
    ite _ (members typeName ms taken)
      (((source depth c typeName name s).orLog (Converter.skipped typeName ms)).bind fun v =>
        (members typeName ms (name :: taken)).bind fun rest => .pure ((name, v) :: rest))

theorem entry_eq (nested : Nested α) (hint : Hint) (e : α × α) :
    Converter.entry nested hint e = (nested.value e.1 hint).bind fun key =>
      if key.isNull then .pure none else (nested.value e.2 hint).bind fun v =>
        .pure (some (key.scalar?.getD (.string (key.text .none none)), v)) := by
  unfold Converter.entry
  congr 1
  funext key
  cases key with
  | scalar s => cases s <;> rfl
  | _ => rfl

def entry (hint : Hint) (e : α × α) :
    Scripted depth fun nested => Converter.entry nested hint e :=
  Scripted.congr
    ((answer (.value e.1 hint)).bind fun key =>
      ite (key.isNull = true) (.pure none) ((answer (.value e.2 hint)).bind fun v =>
        .pure (some (key.scalar?.getD (.string (key.text .none none)), v))))
    fun nested => (entry_eq nested hint e).symm

def pair (hint : Hint) (e : α × α) : Scripted depth fun nested => Converter.pair nested hint e :=
  (answer (.value e.1 hint)).bind fun key =>
    (answer (.value e.2 hint)).bind fun v => .pure (Value.sequence [key, v])

def parts (hint : Hint) : (l : Look α) → Scripted depth fun nested => c.parts nested l hint
  | ⟨.sequence items, _, _, _⟩ =>
    (each (fun item => answer (.value item hint)) (c.keep items)).bind fun vs =>
      .pure (Value.sequence vs)
  | ⟨.tuple items, _, _, _⟩ =>
    (each (fun item => answer (.value item hint)) items).bind fun vs => .pure (Value.sequence vs)
  | ⟨.map key standard entries, type, registeredAs, ownText?⟩ =>
    ite (c.isDictionary ⟨.map key standard entries, type, registeredAs, ownText?⟩ key standard)
      ((each (entry depth hint) (c.keep entries)).bind fun es =>
        .pure (Value.dictionary (es.filterMap id)))
      ((each (pair depth hint) (c.keep entries)).bind fun vs => .pure (Value.sequence vs))
  | ⟨.object ms, type, _, _⟩ =>
    ite (hint = .destructure)
      ((members depth c type.fullName ms []).bind fun vs =>
        .pure (Value.record (if type.isCompilerGenerated then none else some type.name) vs))
      (.pure _)
  | ⟨.typeInfo, _, _, _⟩ | ⟨.null, _, _, _⟩ | ⟨.scalar _, _, _, _⟩ | ⟨.text _, _, _, _⟩
  | ⟨.variant _, _, _, _⟩ | ⟨.wrapper _, _, _, _⟩ | ⟨.bytes _, _, _, _⟩
  | ⟨.function, _, _, _⟩ => .pure _

theorem step_of_no_scalar {h : Host α} {a : α} {hint : Hint}
    (noScalar : c.scalar? (h.inside a) hint = none) (nested : Nested α) :
    c.step h nested a hint =
      if hint = .destructure then (nested.consult (h.unwrap a) c.policies).bind fun v? =>
        v?.elim (c.parts nested (h.inside a) hint) .pure
      else c.parts nested (h.inside a) hint := by
  simp only [Converter.step, noScalar]
  congr 2
  funext v?
  cases v? <;> rfl

def decided (l : Look α) (hint : Hint) : (v? : Option Value) →
    Scripted depth fun nested => v?.elim (c.parts nested l hint) .pure
  | some v => .pure v
  | none => parts depth c hint l

def step (h : Host α) (a : α) (hint : Hint) :
    Scripted depth fun nested => c.step h nested a hint :=
  match e : c.scalar? (h.inside a) hint with
  | some s => Scripted.congr (.pure (Value.scalar s)) fun _ => by simp only [Converter.step, e]
  | none =>
    Scripted.congr
      (ite (hint = .destructure)
        ((consult depth (h.unwrap a) c.policies).bind (decided depth c (h.inside a) hint))
        (parts depth c hint (h.inside a)))
      fun nested => (step_of_no_scalar c e nested).symm

end Converter

end Scripted

end StructuredLog.Capture

import StructuredLog.Diagnostics.Basic

/-!
The outcome of a capture: the diagnostics that it emitted and the calls that it made, in order, and
a result or an error. What was emitted and called before an error stays.
-/

namespace StructuredLog.Capture

inductive CaptureError where
  | accessor (typeName property text : String)
  | unsupported (typeName property : String)
  deriving DecidableEq, Repr

def CaptureError.message : CaptureError → String
  | accessor typeName property text =>
    "property accessor for '" ++ property ++ "' on " ++ typeName ++ " failed: " ++ text
  | unsupported typeName property =>
    "property '" ++ property ++ "' on " ++ typeName ++ " cannot be read"

structure Outcome (β : Type) where
  log : List Diagnostic
  /-- The accessors that were called, by their numbers. -/
  calls : List Nat
  result : Except CaptureError β

namespace Outcome

protected def pure (b : β) : Outcome β := ⟨[], [], .ok b⟩

protected def bind (o : Outcome β) (f : β → Outcome γ) : Outcome γ :=
  match o.result with
  | .ok b => ⟨o.log ++ (f b).log, o.calls ++ (f b).calls, (f b).result⟩
  | .error e => ⟨o.log, o.calls, .error e⟩

instance : Monad Outcome where
  pure := Outcome.pure
  bind := Outcome.bind

def emit (d : Diagnostic) : Outcome Unit := ⟨[d], [], .ok ()⟩

def call (accessor : Nat) : Outcome Unit := ⟨[], [accessor], .ok ()⟩

def fail (e : CaptureError) : Outcome β := ⟨[], [], .error e⟩

/-- An error is followed by further diagnostics. -/
def orLog (o : Outcome β) (ds : List Diagnostic) : Outcome β :=
  match o.result with
  | .ok _ => o
  | .error _ => ⟨o.log ++ ds, o.calls, o.result⟩

/-- Outcomes in a row, up to the first error. -/
def each (f : α → Outcome β) : List α → Outcome (List β)
  | [] => .pure []
  | a :: as => (f a).bind fun b => (each f as).bind fun bs => .pure (b :: bs)

@[simp] theorem bind_ok (log : List Diagnostic) (calls : List Nat) (b : β) (f : β → Outcome γ) :
    Outcome.bind ⟨log, calls, .ok b⟩ f =
      ⟨log ++ (f b).log, calls ++ (f b).calls, (f b).result⟩ := rfl

@[simp] theorem bind_error (log : List Diagnostic) (calls : List Nat) (e : CaptureError)
    (f : β → Outcome γ) : Outcome.bind ⟨log, calls, .error e⟩ f = ⟨log, calls, .error e⟩ := rfl

theorem pure_bind (b : β) (f : β → Outcome γ) : (Outcome.pure b).bind f = f b := rfl

theorem bind_pure (o : Outcome β) : o.bind .pure = o := by
  obtain ⟨log, calls, result⟩ := o
  cases result <;> simp [Outcome.bind, Outcome.pure]

theorem bind_assoc (o : Outcome β) (f : β → Outcome γ) (g : γ → Outcome δ) :
    (o.bind f).bind g = o.bind fun b => (f b).bind g := by
  obtain ⟨log, calls, result⟩ := o
  cases result with
  | error e => rfl
  | ok b =>
    simp only [Outcome.bind]
    cases (f b).result <;> simp [List.append_assoc]

end Outcome

end StructuredLog.Capture

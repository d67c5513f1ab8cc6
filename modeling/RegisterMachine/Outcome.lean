import RegisterMachine.Event

/-!
# Outcomes

What an operation leaves behind: the state it ended in, the events it reported and its answer. An
operation that fails still has a state, since it may have changed something before it failed.
-/

namespace RegisterMachine

structure Outcome (σ α : Type) where
  state : σ
  log : List Event
  result : Except Failure α

namespace Outcome

variable {σ α β : Type}

def done (s : σ) (a : α) : Outcome σ α := ⟨s, [], .ok a⟩

def faulty (s : σ) (f : Fault) : Outcome σ α := ⟨s, [], .error (.fault f)⟩

/-- Answers with `r`, whose only failures are faults. -/
def ofFaulty (s : σ) : Except Fault α → Outcome σ α
  | .ok a => done s a
  | .error f => faulty s f

/-- Goes on with `f` unless the first part failed. -/
def andThen (o : Outcome σ α) (f : α → σ → Outcome σ β) : Outcome σ β :=
  match o.result with
  | .error e => ⟨o.state, o.log, .error e⟩
  | .ok a =>
    let p := f a o.state
    ⟨p.state, o.log ++ p.log, p.result⟩

/-- The same outcome seen as part of a larger state. -/
def within {τ : Type} (o : Outcome σ α) (f : σ → τ) : Outcome τ α := ⟨f o.state, o.log, o.result⟩

/-- The same outcome after earlier events. -/
def after (events : List Event) (o : Outcome σ α) : Outcome σ α :=
  ⟨o.state, events ++ o.log, o.result⟩

theorem state_ofFaulty (s : σ) (r : Except Fault α) : (ofFaulty s r).state = s := by
  cases r <;> rfl

@[simp] theorem andThen_done (s : σ) (a : α) (f : α → σ → Outcome σ β) :
    (done s a).andThen f = f a s := by
  simp [andThen, done]

@[simp] theorem andThen_faulty (s : σ) (e : Fault) (f : α → σ → Outcome σ β) :
    (faulty s e : Outcome σ α).andThen f = faulty s e := rfl

end Outcome

end RegisterMachine

import Eligibility.Log.Event

/-!
# Actions

An action works on a state, writes log events, and ends with a result or an error. An error
ends the action but undoes nothing: the state and the events up to it remain.
-/

namespace Eligibility

/-- What an action leaves behind. -/
structure Reply (σ ε α : Type) where
  result : Except ε α
  state : σ
  log : List LogEvent

/-- An action on a state. -/
def Action (σ ε α : Type) : Type := σ → Reply σ ε α

namespace Action

variable {σ ε ε' α β : Type}

/-- An action that does nothing. -/
protected def pure (a : α) : Action σ ε α := fun s => ⟨.ok a, s, []⟩

/-- One action after the other; the second one is left out if the first one fails. -/
protected def bind (x : Action σ ε α) (f : α → Action σ ε β) : Action σ ε β := fun s =>
  let first := x s
  match first.result with
  | .error e => ⟨.error e, first.state, first.log⟩
  | .ok a =>
      let second := f a first.state
      ⟨second.result, second.state, first.log ++ second.log⟩

instance : Monad (Action σ ε) where
  pure := Action.pure
  bind := Action.bind

/-- Ends with an error. -/
def fail (e : ε) : Action σ ε α := fun s => ⟨.error e, s, []⟩

/-- The result of a computation that needs no state. -/
def ofExcept (result : Except ε α) : Action σ ε α := fun s => ⟨result, s, []⟩

/-- Looks at the state. -/
def read (f : σ → α) : Action σ ε α := fun s => ⟨.ok (f s), s, []⟩

/-- Changes the state. -/
def change (f : σ → σ) : Action σ ε Unit := fun s => ⟨.ok (), f s, []⟩

/-- A step that changes the state and gives a result. -/
def step (f : σ → α × σ) : Action σ ε α := fun s => ⟨.ok (f s).1, (f s).2, []⟩

/-- Writes a log event. -/
def note (level : LogLevel) (text : String) (fields : Fields) : Action σ ε Unit :=
  fun s => ⟨.ok (), s, [⟨level, text, fields⟩]⟩

/-- Runs an action that may fail and goes on with its result or error. -/
def attempt (x : Action σ ε α) : Action σ ε' (Except ε α) := fun s =>
  let reply := x s
  ⟨.ok reply.result, reply.state, reply.log⟩

/-- The same action with another error. -/
def mapError (f : ε → ε') (x : Action σ ε α) : Action σ ε' α := fun s =>
  let reply := x s
  ⟨reply.result.mapError f, reply.state, reply.log⟩

end Action

end Eligibility

import Eligibility.Action

/-!
# Running actions

What a composed action does follows from what its parts do: `bind_of_ok` puts two runs together,
`bind_of_error` ends one early, and `attempt_apply` says what becomes of a failure that is caught.
Runs of longer actions are put together from these, one part after the other. Where the log does not
matter, `Ends` leaves it out.

What is only looked at is not changed, and this needs no run: `keeps_bind` goes through the parts of
an action that leaves a view of the state alone. In the same way `logs_bind` goes through the parts
of an action for what it writes to the log.
-/

namespace Eligibility

/-- A computation that succeeds has succeeded in each of its parts. -/
theorem exists_of_bind_eq_ok {ε α β : Type} {x : Except ε α} {f : α → Except ε β} {b : β}
    (h : (x >>= f) = .ok b) : ∃ a, x = .ok a ∧ f a = .ok b := by
  cases x with
  | error e => exact nomatch h
  | ok a => exact ⟨a, rfl, h⟩

/-- A computation whose value is used succeeds with that value. -/
theorem exists_of_map_eq_ok {ε α β : Type} {x : Except ε α} {f : α → β} {b : β}
    (h : x.map f = .ok b) : ∃ a, x = .ok a ∧ f a = b := by
  cases x with
  | error e => exact nomatch h
  | ok a => exact ⟨a, rfl, Except.ok.inj h⟩

/-- A success has nothing to do with the words for errors. -/
theorem eq_ok_of_mapError {ε ε' α : Type} {x : Except ε α} {f : ε → ε'} {a : α}
    (h : x.mapError f = .ok a) : x = .ok a := by
  cases x with
  | error e => exact nomatch h
  | ok b => exact congrArg Except.ok (Except.ok.inj h)

/-- An error that was put in other words is that of the computation. -/
theorem exists_of_mapError_eq_error {ε ε' α : Type} {x : Except ε α} {f : ε → ε'} {e' : ε'}
    (h : x.mapError f = .error e') : ∃ e, x = .error e ∧ f e = e' := by
  cases x with
  | error e => exact ⟨e, rfl, Except.error.inj h⟩
  | ok a => exact nomatch h

namespace Action

variable {σ ε ε' α β γ : Type}

/-- After a result the second action goes on in the state that the first one left. -/
theorem bind_of_ok {x : Action σ ε α} {f : α → Action σ ε β} {s s' s'' : σ} {a : α}
    {result : Except ε β} {log log' : List LogEvent} (h : x s = ⟨.ok a, s', log⟩)
    (h' : f a s' = ⟨result, s'', log'⟩) : (x >>= f) s = ⟨result, s'', log ++ log'⟩ := by
  show Action.bind x f s = _
  unfold Action.bind
  rw [h]
  show (⟨(f a s').result, (f a s').state, log ++ (f a s').log⟩ : Reply σ ε β) = _
  rw [h']

/-- After an error the second action is left out. -/
theorem bind_of_error {x : Action σ ε α} {s s' : σ} {e : ε} {log : List LogEvent}
    (h : x s = ⟨.error e, s', log⟩) (f : α → Action σ ε β) :
    (x >>= f) s = ⟨.error e, s', log⟩ := by
  show Action.bind x f s = _
  unfold Action.bind
  rw [h]

theorem read_of_eq {f : σ → α} {s : σ} {a : α} (h : f s = a) :
    (read f : Action σ ε α) s = ⟨.ok a, s, []⟩ := by
  unfold read
  rw [h]

theorem ofExcept_of_eq {computed result : Except ε α} (h : computed = result) (s : σ) :
    (ofExcept computed : Action σ ε α) s = ⟨result, s, []⟩ := by
  rw [h]
  rfl

theorem step_of_eq {f : σ → α × σ} {s s' : σ} {a : α} (h : f s = (a, s')) :
    (step f : Action σ ε α) s = ⟨.ok a, s', []⟩ := by
  unfold step
  rw [h]

/-- A failure that is caught is a result. -/
theorem attempt_apply {x : Action σ ε α} {s s' : σ} {result : Except ε α} {log : List LogEvent}
    (h : x s = ⟨result, s', log⟩) :
    (x.attempt : Action σ ε' (Except ε α)) s = ⟨.ok result, s', log⟩ := by
  unfold attempt
  rw [h]

/-- From one state the action ends with a result in another one, whatever it writes to the log. -/
def Ends (x : Action σ ε α) (s : σ) (result : Except ε α) (s' : σ) : Prop :=
  ∃ log, x s = ⟨result, s', log⟩

section Ends

variable {x : Action σ ε α} {f : α → Action σ ε β} {s s' s'' : σ} {a : α} {e : ε}
  {result : Except ε α} {last : Except ε β}

theorem Ends.result_eq (h : x.Ends s result s') : (x s).result = result := by
  obtain ⟨log, hrun⟩ := h
  rw [hrun]

theorem Ends.state_eq (h : x.Ends s result s') : (x s).state = s' := by
  obtain ⟨log, hrun⟩ := h
  rw [hrun]

theorem Ends.bind (h : x.Ends s (.ok a) s') (h' : (f a).Ends s' last s'') :
    (x >>= f).Ends s last s'' := by
  obtain ⟨log, hrun⟩ := h
  obtain ⟨log', hrun'⟩ := h'
  exact ⟨_, bind_of_ok hrun hrun'⟩

theorem Ends.bind_error (h : x.Ends s (.error e) s') (f : α → Action σ ε β) :
    (x >>= f).Ends s (.error e) s' := by
  obtain ⟨log, hrun⟩ := h
  exact ⟨log, bind_of_error hrun f⟩

theorem Ends.attempt (h : x.Ends s result s') :
    (x.attempt : Action σ ε' (Except ε α)).Ends s (.ok result) s' := by
  obtain ⟨log, hrun⟩ := h
  exact ⟨log, attempt_apply hrun⟩

theorem Ends.mapError (h : x.Ends s result s') (f : ε → ε') :
    (x.mapError f).Ends s (result.mapError f) s' := by
  obtain ⟨log, hrun⟩ := h
  refine ⟨log, ?_⟩
  unfold Action.mapError
  rw [hrun]

theorem ends_ofExcept (result : Except ε α) (s : σ) : (ofExcept result).Ends s result s := ⟨_, rfl⟩

theorem ends_step {f : σ → α × σ} (h : f s = (a, s')) :
    (step f : Action σ ε α).Ends s (.ok a) s' := ⟨_, step_of_eq h⟩

end Ends

/-- The action leaves what is seen of the state as it is. -/
def Keeps (view : σ → γ) (x : Action σ ε α) : Prop := ∀ s, view (x s).state = view s

theorem keeps_bind {view : σ → γ} {x : Action σ ε α} {f : α → Action σ ε β} (hx : x.Keeps view)
    (hf : ∀ a, (f a).Keeps view) : (x >>= f).Keeps view := by
  intro s
  have hfirst := hx s
  rcases hrun : x s with ⟨_ | a, s', log⟩
  · rw [bind_of_error hrun]
    rw [hrun] at hfirst
    exact hfirst
  · rw [bind_of_ok hrun rfl]
    rw [hrun] at hfirst
    exact (hf a s').trans hfirst

/-- All events that the action writes to the log have a property. -/
def Logs (P : LogEvent → Prop) (x : Action σ ε α) : Prop := ∀ s, ∀ e ∈ (x s).log, P e

section Logs

variable {P : LogEvent → Prop} {x : Action σ ε α} {f : α → Action σ ε β}

/-- An action that writes nothing to the log. -/
theorem logs_of_silent (h : ∀ s, (x s).log = []) : x.Logs P := by
  intro s e he
  rw [h s] at he
  exact absurd he List.not_mem_nil

theorem logs_note {level : LogLevel} {text : String} {fields : Fields}
    (h : P ⟨level, text, fields⟩) : (note level text fields : Action σ ε Unit).Logs P :=
  fun _ _ he => List.mem_singleton.mp he ▸ h

theorem logs_bind (hx : x.Logs P) (hf : ∀ a, (f a).Logs P) : (x >>= f).Logs P := by
  intro s
  have hfirst := hx s
  rcases hrun : x s with ⟨_ | a, s', log⟩
  · rw [bind_of_error hrun]
    rw [hrun] at hfirst
    exact hfirst
  · rw [bind_of_ok hrun rfl]
    rw [hrun] at hfirst
    exact List.forall_mem_append.mpr ⟨hfirst, hf a s'⟩

/-- An event, and then whatever follows it. -/
theorem logs_note_bind {level : LogLevel} {text : String} {fields : Fields}
    {f : Unit → Action σ ε β} (h : P ⟨level, text, fields⟩) (hf : (f ()).Logs P) :
    (note level text fields >>= f).Logs P :=
  logs_bind (logs_note h) fun _ => hf

theorem logs_silent_bind (hx : ∀ s, (x s).log = []) (hf : ∀ a, (f a).Logs P) :
    (x >>= f).Logs P :=
  logs_bind (logs_of_silent hx) hf

/-- An event, and nothing after it. -/
theorem logs_note_silent {level : LogLevel} {text : String} {fields : Fields}
    {f : Unit → Action σ ε β} (h : P ⟨level, text, fields⟩) (hf : ∀ s, (f () s).log = []) :
    (note level text fields >>= f).Logs P :=
  logs_note_bind h (logs_of_silent hf)

theorem logs_attempt (hx : x.Logs P) : (x.attempt : Action σ ε' (Except ε α)).Logs P := hx

theorem logs_mapError (hx : x.Logs P) (g : ε → ε') : (x.mapError g).Logs P := hx

end Logs

end Action

end Eligibility

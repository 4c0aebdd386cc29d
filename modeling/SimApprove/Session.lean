import SimApprove.Log.Event

/-!
# Sessions and actions

A session is a state together with the events logged so far. An `Action` may
read and change the state, log events and fail; what it did before it failed
stays done. The state is left open, so that a client can be any state
transformer.
-/

namespace SimApprove

structure Session (σ : Type) where
  state : σ
  /-- The events so far, oldest first. -/
  log : List Log.Event

abbrev Action (σ ε α : Type) := ExceptT ε (StateM (Session σ)) α

namespace Action

def run {σ ε α : Type} (action : Action σ ε α) (s : Session σ) : Except ε α × Session σ :=
  StateT.run (ExceptT.run action) s

def emit {σ ε : Type} (event : Log.Event) : Action σ ε Unit :=
  ExceptT.mk fun s => (.ok (), { s with log := s.log ++ [event] })

def fail {σ ε α : Type} (e : ε) : Action σ ε α := ExceptT.mk fun s => (.error e, s)

def transform {σ ε α : Type} (f : σ → Except ε α × σ) : Action σ ε α :=
  ExceptT.mk fun s => ((f s.state).1, { s with state := (f s.state).2 })

def mapError {σ ε δ α : Type} (f : ε → δ) (action : Action σ ε α) : Action σ δ α :=
  ExceptT.mk fun s =>
    match run action s with
    | (.ok a, s) => (.ok a, s)
    | (.error e, s) => (.error (f e), s)

variable {σ ε δ α β : Type}

@[simp] theorem run_pure (a : α) (s : Session σ) : (pure a : Action σ ε α).run s = (.ok a, s) := rfl

@[simp] theorem run_fail (e : ε) (s : Session σ) :
    (fail e : Action σ ε α).run s = (.error e, s) := rfl

@[simp] theorem run_emit (event : Log.Event) (s : Session σ) :
    (emit event : Action σ ε Unit).run s = (.ok (), { s with log := s.log ++ [event] }) := rfl

@[simp] theorem run_transform (f : σ → Except ε α × σ) (s : Session σ) :
    (transform f).run s = ((f s.state).1, { s with state := (f s.state).2 }) := rfl

theorem run_bind (action : Action σ ε α) (next : α → Action σ ε β) (s : Session σ) :
    (action >>= next).run s =
      match action.run s with
      | (.ok a, s) => (next a).run s
      | (.error e, s) => (.error e, s) := by
  show StateT.run (ExceptT.run (action >>= next)) s = _
  simp only [ExceptT.run_bind, StateT.run_bind, run]
  cases StateT.run (ExceptT.run action) s with
  | mk outcome s => cases outcome <;> rfl

theorem run_bind_of_ok {action : Action σ ε α} {next : α → Action σ ε β} {a : α}
    {s after : Session σ} (h : action.run s = (.ok a, after)) :
    (action >>= next).run s = (next a).run after := by
  rw [run_bind, h]

theorem run_bind_of_error {action : Action σ ε α} {next : α → Action σ ε β} {e : ε}
    {s after : Session σ} (h : action.run s = (.error e, after)) :
    (action >>= next).run s = (.error e, after) := by
  rw [run_bind, h]

theorem run_mapError (f : ε → δ) (action : Action σ ε α) (s : Session σ) :
    (mapError f action).run s =
      match action.run s with
      | (.ok a, s) => (.ok a, s)
      | (.error e, s) => (.error (f e), s) := rfl

end Action

end SimApprove

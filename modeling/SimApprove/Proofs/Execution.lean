import SimApprove.Execution

/-!
# Commands meet clients

What `ApproveCommand.execute` and `ApproveCommand.run` come to for a client of
which nothing is known: a command without the scheme it needs is refused and the
client is left alone (`run_execute_of_lacksScheme`); any other command is one
`approve` of the client and nothing else (`run_execute`).

`Client.recorded` keeps the approvals that a client receives, in front of the
client's own state. `executeAll_complete`: whatever commands are executed one after
the other, all that is received is complete.
-/

namespace SimApprove

variable {σ : Type}

def Client.recorded (client : Client σ) : Client (List Approval × σ) where
  name := client.name
  approve a := ExceptT.mk fun s =>
    let (result, after) := (client.approve a).run ⟨s.state.2, s.log⟩
    (result, ⟨(s.state.1 ++ [a], after.state), after.log⟩)

theorem Client.run_approve_recorded (client : Client σ) (a : Approval)
    (s : Session (List Approval × σ)) :
    (client.recorded.approve a).run s =
      (((client.approve a).run ⟨s.state.2, s.log⟩).1,
        ⟨(s.state.1 ++ [a], ((client.approve a).run ⟨s.state.2, s.log⟩).2.state),
          ((client.approve a).run ⟨s.state.2, s.log⟩).2.log⟩) := rfl

namespace ApproveCommand

variable {c : ApproveCommand} {client : Client σ} {s : Session σ}

theorem toApproval_of_lacksScheme (h : c.lacksScheme = true) :
    c.toApproval = .error .missingScheme := by
  rw [toApproval, if_pos h]

theorem toApproval_of_not_lacksScheme (h : c.lacksScheme = false) :
    c.toApproval = .ok c.request := by
  rw [toApproval, h]
  rfl

theorem run_execute_of_lacksScheme (h : c.lacksScheme = true) :
    (c.execute client).run s = (.error .missingScheme, s) := by
  rw [execute, toApproval_of_lacksScheme h]
  rfl

theorem run_execute (h : c.lacksScheme = false) :
    (c.execute client).run s =
      (((client.approve c.request).run
          ⟨s.state, s.log ++ [dispatching client.name c.request]⟩).1.mapError .client,
        ((client.approve c.request).run
          ⟨s.state, s.log ++ [dispatching client.name c.request]⟩).2) := by
  rw [execute, toApproval_of_not_lacksScheme h]
  simp only
  rw [Action.run_bind_of_ok (Action.run_emit _ _), Action.run_mapError]
  cases (client.approve c.request).run
    ⟨s.state, s.log ++ [dispatching client.name c.request]⟩ with
  | mk result after => cases result <;> rfl

/-- A client's fault is never taken for a missing scheme. -/
theorem execute_eq_missingScheme_iff :
    ((c.execute client).run s).1 = .error .missingScheme ↔ c.lacksScheme = true := by
  cases hl : c.lacksScheme with
  | true => simp only [run_execute_of_lacksScheme hl]
  | false =>
    rw [run_execute hl]
    cases ((client.approve c.request).run
        ⟨s.state, s.log ++ [dispatching client.name c.request]⟩).1 with
    | ok _ => exact ⟨fun he => (by cases he), fun hf => (by cases hf)⟩
    | error e => exact ⟨fun he => (by cases he), fun hf => (by cases hf)⟩

theorem run_run (c : ApproveCommand) (client : Client σ) (s : Session σ) :
    (c.run client).run s = (c.execute client).run ⟨s.state, s.log ++ [running client.name]⟩ := by
  rw [run, Action.run_bind_of_ok (Action.run_emit _ _)]

def announcements (c : ApproveCommand) (clientName : String) : List Log.Event :=
  [running clientName, dispatching clientName c.request]

theorem run_of_lacksScheme (h : c.lacksScheme = true) :
    (c.run client).run s =
      (.error .missingScheme, ⟨s.state, s.log ++ [running client.name]⟩) := by
  rw [run_run, run_execute_of_lacksScheme h]

theorem run_of_approve (h : c.lacksScheme = false) {result : Except ClientError Unit}
    {after : Session σ}
    (hr : (client.approve c.request).run ⟨s.state, s.log ++ c.announcements client.name⟩ =
      (result, after)) : (c.run client).run s = (result.mapError .client, after) := by
  rw [announcements] at hr
  rw [run_run, run_execute h, List.append_assoc, List.singleton_append, hr]

-- ---------------------------------------------------------------------------
-- What a client receives
-- ---------------------------------------------------------------------------

theorem received_of_lacksScheme (h : c.lacksScheme = true)
    (s : Session (List Approval × σ)) :
    ((c.execute client.recorded).run s).2.state.1 = s.state.1 := by
  rw [run_execute_of_lacksScheme h]

theorem received_of_not_lacksScheme (h : c.lacksScheme = false)
    (s : Session (List Approval × σ)) :
    ((c.execute client.recorded).run s).2.state.1 = s.state.1 ++ [c.request] := by
  rw [run_execute h, Client.run_approve_recorded]

def executeAll (client : Client σ) (s : Session σ) (commands : List ApproveCommand) : Session σ :=
  commands.foldl (fun s c => ((c.execute client).run s).2) s

theorem execute_complete (c : ApproveCommand) (s : Session (List Approval × σ))
    (hs : ∀ a ∈ s.state.1, a.Complete) :
    ∀ a ∈ ((c.execute client.recorded).run s).2.state.1, a.Complete := by
  cases h : c.lacksScheme with
  | true =>
    rw [received_of_lacksScheme h]
    exact hs
  | false =>
    rw [received_of_not_lacksScheme h]
    intro a ha
    rcases List.mem_append.mp ha with ha | ha
    · exact hs a ha
    · rw [List.mem_singleton.mp ha]
      exact complete_request h

theorem executeAll_complete (commands : List ApproveCommand) (s : Session (List Approval × σ))
    (hs : ∀ a ∈ s.state.1, a.Complete) :
    ∀ a ∈ (executeAll client.recorded s commands).state.1, a.Complete := by
  induction commands generalizing s with
  | nil => exact hs
  | cons c rest ih => exact ih _ (execute_complete c s hs)

theorem mem_toList_request {p : Permission} :
    p ∈ c.request.permissions.toList ↔ p ∈ c.permissions := by
  rw [PermissionSet.mem_toList]
  exact PermissionSet.contains_ofList_iff

end ApproveCommand

end SimApprove

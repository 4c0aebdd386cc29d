import SimApprove.Dispatch
import SimApprove.Proofs.Execution
import SimApprove.Proofs.Simulator.Course

/-!
# Dispatch, backend by backend

The settings name the client, and a dispatch is the run of the command with it. For
the simulator that is a course over the permissions of the request
(`run_dispatch_simulator`), for the dry run a line in the log
(`run_dispatch_dryRun`). A command without the scheme it needs is refused before
either client sees it. `exists_dispatched` puts the ways together in which a dispatch
can go.
-/

namespace SimApprove

open Simulator (Course Visit)

variable {i : CommandLine.Invocation} {s : Settings} {session : Session World}

namespace CommandLine.Invocation

theorem run_dispatch_of_ok {client : Client World}
    (h : s.client.toClient (s.target i.udid) = .ok client) :
    (i.dispatch s).run session =
      (((i.command.run client).run session).1.mapError .command,
        ((i.command.run client).run session).2) := by
  rw [dispatch, h]
  simp only
  rw [Action.run_mapError]
  cases (i.command.run client).run session with
  | mk result after => cases result <;> rfl

theorem toClient_of_ofName? (h : Backend.ofName? s.client.backend = some .simulator)
    (udid : String) : s.client.toClient udid = .ok (s.client.simulator udid).client := by
  rw [ClientSettings.toClient, h]

theorem toClient_dryRun (h : Backend.ofName? s.client.backend = some .dryRun) (udid : String) :
    s.client.toClient udid = .ok (DryRun.client World udid) := by
  rw [ClientSettings.toClient, h]

theorem run_dispatch_of_lacksScheme {client : Client World}
    (h : s.client.toClient (s.target i.udid) = .ok client) (hl : i.command.lacksScheme = true) :
    (i.dispatch s).run session =
      (.error (.command .missingScheme),
        ⟨session.state, session.log ++ [ApproveCommand.running client.name]⟩) := by
  rw [run_dispatch_of_ok h, ApproveCommand.run_of_lacksScheme hl]
  rfl

theorem run_dispatch_of_approve {client : Client World}
    (h : s.client.toClient (s.target i.udid) = .ok client) (hl : i.command.lacksScheme = false)
    {result : Except ClientError Unit} {after : Session World}
    (hr : (client.approve i.command.request).run
      ⟨session.state, session.log ++ i.command.announcements client.name⟩ = (result, after)) :
    (i.dispatch s).run session = (result.mapError fun e => .command (.client e), after) := by
  rw [run_dispatch_of_ok h, ApproveCommand.run_of_approve hl hr]
  cases result <;> rfl

theorem run_dispatch_dryRun (h : Backend.ofName? s.client.backend = some .dryRun)
    (hl : i.command.lacksScheme = false) :
    (i.dispatch s).run session =
      (.ok (), ⟨session.state, session.log ++ i.command.announcements "dry-run" ++
        [DryRun.event (s.target i.udid) i.command.request]⟩) :=
  run_dispatch_of_approve (toClient_dryRun h _) hl rfl

theorem run_dispatch_of_course (h : Backend.ofName? s.client.backend = some .simulator)
    (hl : i.command.lacksScheme = false) {visited granted : List Permission}
    {log : List Log.Event} {result : Except ClientError Unit} {after : World}
    (hc : Course (s.client.simulator (s.target i.udid)) i.command.request session.state
      i.command.request.permissions.toList visited granted log result after) :
    (i.dispatch s).run session =
      (result.mapError fun e => .command (.client e),
        ⟨after, session.log ++ i.command.announcements "simctl" ++ log⟩) :=
  run_dispatch_of_approve (toClient_of_ofName? h _) hl
    (hc.run (Simulator.plans_toList (ApproveCommand.complete_request hl)) _)

theorem run_dispatch_simulator (h : Backend.ofName? s.client.backend = some .simulator)
    (hl : i.command.lacksScheme = false) :
    ∃ visited granted log result after,
      Course (s.client.simulator (s.target i.udid)) i.command.request session.state
        i.command.request.permissions.toList visited granted log result after ∧
      (i.dispatch s).run session =
        (result.mapError fun e => .command (.client e),
          ⟨after, session.log ++ i.command.announcements "simctl" ++ log⟩) := by
  obtain ⟨visited, granted, log, result, after, hc⟩ :=
    Simulator.exists_course (s.client.simulator (s.target i.udid)) i.command.request session.state
      i.command.request.permissions.toList
  exact ⟨visited, granted, log, result, after, hc, run_dispatch_of_course h hl hc⟩

/-- No client sees a command under settings that name no backend. -/
theorem run_dispatch_of_unknown (h : Backend.ofName? s.client.backend = none) :
    (i.dispatch s).run session =
      (.error (.config (.unknownBackend s.client.backend)), session) := by
  rw [dispatch, ClientSettings.toClient_of_unknown h]
  rfl

inductive Dispatched (i : Invocation) (s : Settings) (session : Session World) :
    Except ProgramError Unit × Session World → Prop
  | unknown (h : Backend.ofName? s.client.backend = none) :
      Dispatched i s session (.error (.config (.unknownBackend s.client.backend)), session)
  | refused {client : Client World} (hc : s.client.toClient (s.target i.udid) = .ok client)
      (hl : i.command.lacksScheme = true) :
      Dispatched i s session (.error (.command .missingScheme),
        ⟨session.state, session.log ++ [ApproveCommand.running client.name]⟩)
  | rehearsed (h : Backend.ofName? s.client.backend = some .dryRun)
      (hl : i.command.lacksScheme = false) :
      Dispatched i s session
        (.ok (), ⟨session.state, session.log ++ i.command.announcements "dry-run" ++
          [DryRun.event (s.target i.udid) i.command.request]⟩)
  | simulated {visited granted log result after}
      (h : Backend.ofName? s.client.backend = some .simulator)
      (hl : i.command.lacksScheme = false)
      (hc : Course (s.client.simulator (s.target i.udid)) i.command.request session.state
        i.command.request.permissions.toList visited granted log result after) :
      Dispatched i s session (result.mapError fun e => .command (.client e),
        ⟨after, session.log ++ i.command.announcements "simctl" ++ log⟩)

theorem exists_dispatched (i : Invocation) (s : Settings) (session : Session World) :
    ∃ outcome, (i.dispatch s).run session = outcome ∧ Dispatched i s session outcome := by
  cases hb : Backend.ofName? s.client.backend with
  | none => exact ⟨_, run_dispatch_of_unknown hb, .unknown hb⟩
  | some b =>
    cases hl : i.command.lacksScheme with
    | true =>
      obtain ⟨client, hc⟩ := ClientSettings.exists_toClient_of_ofName? hb (s.target i.udid)
      exact ⟨_, run_dispatch_of_lacksScheme hc hl, .refused hc hl⟩
    | false =>
      cases b with
      | dryRun => exact ⟨_, run_dispatch_dryRun hb hl, .rehearsed hb hl⟩
      | simulator =>
        obtain ⟨_, _, _, _, _, hc, hr⟩ := @run_dispatch_simulator i s session hb hl
        exact ⟨_, hr, .simulated hb hl hc⟩

-- ---------------------------------------------------------------------------
-- The contract between a command and its client
-- ---------------------------------------------------------------------------

theorem error_ne_invalidRequest {sim : Simulator} {a : Approval} {w : World} {p : Permission}
    {events : List Log.Event} {e : ClientError} {files : FileTree}
    (h : Visit sim a w p events (.error e) files) (reason : String) :
    e ≠ .invalidRequest reason := by
  rintro rfl
  cases h with
  | answered _ _ ho => cases ho

/-- The simulator's own check of the scheme comes too late to find anything. -/
theorem dispatch_ne_invalidRequest (h : Backend.ofName? s.client.backend = some .simulator)
    (reason : String) :
    ((i.dispatch s).run session).1 ≠ .error (.command (.client (.invalidRequest reason))) := by
  cases hl : i.command.lacksScheme with
  | true =>
    rw [run_dispatch_of_lacksScheme (toClient_of_ofName? h _) hl]
    intro he
    cases he
  | false =>
    obtain ⟨visited, granted, log, result, after, hc, hr⟩ := run_dispatch_simulator h hl
    rw [hr]
    cases result with
    | ok _ =>
      intro he
      cases he
    | error e =>
      obtain ⟨_, _, _, _, _, -, -, -, hv⟩ := hc.exists_fault
      intro he
      cases he
      exact error_ne_invalidRequest hv reason rfl

end CommandLine.Invocation

/-- The contract of a command with a client of which nothing is known. -/
theorem execute_contract {σ : Type} (c : ApproveCommand) (client : Client σ) (s : Session σ)
    (received : List Approval) :
    (((c.execute client).run s).1 = .error .missingScheme ↔
      .url ∈ c.permissions ∧ (c.scheme = none ∨ c.scheme = some "")) ∧
    ((.url ∈ c.permissions ∧ (c.scheme = none ∨ c.scheme = some "")) →
      (c.execute client).run s = (.error .missingScheme, s) ∧
      (c.execute client.recorded).run ⟨(received, s.state), s.log⟩ =
        (.error .missingScheme, ⟨(received, s.state), s.log⟩)) ∧
    (¬ (.url ∈ c.permissions ∧ (c.scheme = none ∨ c.scheme = some "")) →
      ∃ a : Approval, a.bundleId = c.bundleId ∧ a.scheme = c.scheme ∧
        (∀ p, p ∈ a.permissions.toList ↔ p ∈ c.permissions) ∧
        a.permissions.toList.Pairwise (·.rank < ·.rank) ∧
        ((c.execute client.recorded).run ⟨(received, s.state), s.log⟩).2.state.1 =
          received ++ [a] ∧
        (c.execute client).run s =
          (((client.approve a).run
              ⟨s.state, s.log ++ [ApproveCommand.dispatching client.name a]⟩).1.mapError .client,
            ((client.approve a).run
              ⟨s.state, s.log ++ [ApproveCommand.dispatching client.name a]⟩).2)) ∧
    (∀ e : ClientError, (CommandError.client e).exitCode = e.exitCode ∧
      (CommandError.client e).message = e.message ∧
      (CommandError.client e).sources = e.sources) ∧
    (∀ (commands : List ApproveCommand) (state : σ) (log : List Log.Event),
      ∀ a ∈ (ApproveCommand.executeAll client.recorded ⟨([], state), log⟩ commands).state.1,
        a.permissions.contains .url = true → ∃ scheme, a.scheme = some scheme ∧ scheme ≠ "") ∧
    (∀ (i : CommandLine.Invocation) (settings : Settings) (session : Session World)
      (reason : String), (settings.client.backend = "simctl" ∨ settings.client.backend = "") →
      ((i.dispatch settings).run session).1 ≠
        .error (.command (.client (.invalidRequest reason)))) := by
  rw [← ApproveCommand.lacksScheme_iff]
  refine ⟨ApproveCommand.execute_eq_missingScheme_iff, ?_, ?_, ?_, ?_, ?_⟩
  · intro hl
    exact ⟨ApproveCommand.run_execute_of_lacksScheme hl,
      ApproveCommand.run_execute_of_lacksScheme hl⟩
  · intro hl
    have hl : c.lacksScheme = false := Bool.eq_false_iff.mpr hl
    exact ⟨c.request, rfl, rfl, fun p => ApproveCommand.mem_toList_request,
      c.request.permissions.sorted_toList, ApproveCommand.received_of_not_lacksScheme hl _,
      ApproveCommand.run_execute hl⟩
  · exact fun e => ⟨rfl, rfl, rfl⟩
  · intro commands state log
    exact ApproveCommand.executeAll_complete commands _ (fun a ha => by cases ha)
  · intro i settings session reason hb
    exact CommandLine.Invocation.dispatch_ne_invalidRequest
      (Backend.ofName?_eq_simulator_iff.mpr hb) reason

end SimApprove

import SimApprove.Proofs.Dispatch
import Mathlib.Data.List.Basic

/-!
# A dry run before the real one

The same command under the same settings, once with the dry run and once with the
simulator. `rehearsal` says what the dry run foretells: the refusal of a command without
its scheme, and for a run that succeeds, the permissions that it grants.
-/

namespace SimApprove

-- ---------------------------------------------------------------------------
-- Events
-- ---------------------------------------------------------------------------

namespace Log

def saying (message : String) (log : List Event) : List Event := log.filter (·.message = message)

theorem saying_append (message : String) (first second : List Event) :
    saying message (first ++ second) = saying message first ++ saying message second :=
  List.filter_append first second

end Log

open Log (saying saying_append)

namespace Simulator

variable {sim : Simulator} {a : Approval} {w after : World} {p : Permission}
  {ps plan visited granted : List Permission} {events log : List Log.Event}

theorem Visit.saying_granted {result : Except ClientError Unit} {files : FileTree}
    (h : Visit sim a w p events result files) : saying "permission granted" events = [] := by
  obtain rfl | ⟨home, rfl⟩ := h.events_eq <;> rfl

theorem GrantsAll.saying_granted (h : GrantsAll sim a w ps log after) :
    saying "permission granted" log = ps.map (sim.granted a) :=
  h.filter_eq (fun _ => rfl) Visit.saying_granted

theorem Course.grantsAll (h : Course sim a w plan visited granted log (.ok ()) after) :
    GrantsAll sim a w plan log after := by
  cases h with
  | completed hg => exact hg

end Simulator

-- ---------------------------------------------------------------------------
-- The list of names
-- ---------------------------------------------------------------------------

theorem Permission.comma_not_mem_name (p : Permission) : ',' ∉ p.name.toList := by
  cases p <;> decide

namespace PermissionSet

theorem splitOn_names {s : PermissionSet} (h : s.toList ≠ []) :
    s.names.toList.splitOn ',' = s.toList.map (·.name.toList) := by
  have hcomma : ",".toList = [','] := rfl
  rw [names, String.toList_intercalate, hcomma, List.map_map, List.splitOn_intercalate]
  · rfl
  · intro name hname
    obtain ⟨p, -, rfl⟩ := List.mem_map.mp hname
    exact p.comma_not_mem_name
  · simpa using h

theorem names_of_toList_eq_nil {s : PermissionSet} (h : s.toList = []) : s.names = "" := by
  rw [names, h]
  rfl

end PermissionSet

-- ---------------------------------------------------------------------------
-- Both runs
-- ---------------------------------------------------------------------------

def Settings.withBackend (s : Settings) (name : String) : Settings :=
  { s with client := { s.client with backend := name } }

/-- The event of a dry run names what these events say was granted: the same permissions in
the same order, for the same device and the same app. -/
structure Foretells (i : CommandLine.Invocation) (s : Settings) (event : Log.Event)
    (grants : List Log.Event) : Prop where
  permissions : i.command.permissions ≠ [] → ∃ text, event.value? "permissions" = some text ∧
    grants.map (·.value? "permission") =
      (text.toList.splitOn ',').map fun name => some (String.ofList name)
  /-- There is nothing to split where nothing is asked for. -/
  nothing : i.command.permissions = [] → event.value? "permissions" = some "" ∧ grants = []
  udid : ∀ e ∈ event :: grants, e.value? "udid" = some (s.target i.udid)
  bundleId : ∀ e ∈ event :: grants, e.value? "bundle_id" = some i.command.bundleId

namespace CommandLine.Invocation

variable {i : Invocation} {s : Settings} {here there : Session World} {dry real : String}

theorem toList_request_eq_nil_iff :
    i.command.request.permissions.toList = [] ↔ i.command.permissions = [] := by
  simp only [List.eq_nil_iff_forall_not_mem, ApproveCommand.mem_toList_request]

theorem foretells_event (i : Invocation) (s : Settings) (sim : Simulator)
    (hu : sim.udid = s.target i.udid) :
    Foretells i s (DryRun.event (s.target i.udid) i.command.request)
      (i.command.request.permissions.toList.map (sim.granted i.command.request)) where
  permissions h := by
    refine ⟨i.command.request.permissions.names, rfl, ?_⟩
    rw [PermissionSet.splitOn_names (mt toList_request_eq_nil_iff.mp h), List.map_map, List.map_map]
    refine List.map_congr_left fun p _ => ?_
    exact congrArg some (String.ofList_toList).symm
  nothing h := by
    have hnil := toList_request_eq_nil_iff.mpr h
    exact ⟨congrArg some (PermissionSet.names_of_toList_eq_nil hnil), by rw [hnil]; rfl⟩
  udid := by
    rintro e (_ | ⟨_, he⟩)
    · rfl
    · obtain ⟨p, -, rfl⟩ := List.mem_map.mp he
      exact congrArg some hu
  bundleId := by
    rintro e (_ | ⟨_, he⟩)
    · rfl
    · obtain ⟨p, -, rfl⟩ := List.mem_map.mp he
      rfl

theorem run_dispatch_simulator_ok (hb : Backend.ofName? s.client.backend = some .simulator)
    (hs : i.command.lacksScheme = false) (h : ((i.dispatch s).run there).1 = .ok ()) :
    ∃ log, ((i.dispatch s).run there).2.log = there.log ++ log ∧
      saying "permission granted" log = i.command.request.permissions.toList.map
        ((s.client.simulator (s.target i.udid)).granted i.command.request) := by
  obtain ⟨visited, granted, log, result, after, hc, hr⟩ :=
    @run_dispatch_simulator i s there hb hs
  rw [hr] at h ⊢
  cases result with
  | error e => cases h
  | ok _ =>
    refine ⟨i.command.announcements "simctl" ++ log, List.append_assoc _ _ _, ?_⟩
    rw [saying_append, hc.grantsAll.saying_granted]
    rfl

/-- What a dry run tells of a run with the simulator, in whatever world either is made. -/
theorem rehearsal (i : Invocation) (s : Settings) (here there : Session World)
    (hdry : dry = "dry-run" ∨ dry = "none") (hreal : real = "simctl" ∨ real = "") :
    let rehearsed := (i.dispatch (s.withBackend dry)).run here
    let done := (i.dispatch (s.withBackend real)).run there
    (rehearsed.1 = .error (.command .missingScheme) ↔
      done.1 = .error (.command .missingScheme)) ∧
    (rehearsed.1 ≠ .error (.command .missingScheme) → rehearsed.1 = .ok ()) ∧
    rehearsed.2.state = here.state ∧
    (done.1 = .ok () → rehearsed.1 = .ok () ∧ ∃ event log log',
      rehearsed.2.log = here.log ++ log ∧
      saying "dry-run: would approve permissions" log = [event] ∧
      done.2.log = there.log ++ log' ∧ Foretells i s event (saying "permission granted" log')) := by
  intro rehearsed done
  have hd : Backend.ofName? (s.withBackend dry).client.backend = some .dryRun :=
    Backend.ofName?_eq_dryRun_iff.mpr hdry
  have hr : Backend.ofName? (s.withBackend real).client.backend = some .simulator :=
    Backend.ofName?_eq_simulator_iff.mpr hreal
  cases hs : i.command.lacksScheme with
  | true =>
    have hrehearsed : rehearsed = _ := run_dispatch_of_lacksScheme (toClient_dryRun hd _) hs
    have hdone : done = _ := run_dispatch_of_lacksScheme (toClient_of_ofName? hr _) hs
    rw [hrehearsed, hdone]
    exact ⟨Iff.rfl, fun h => absurd rfl h, rfl, fun h => nomatch h⟩
  | false =>
    have hrehearsed : rehearsed = _ := run_dispatch_dryRun hd hs
    rw [hrehearsed]
    refine ⟨⟨fun h => (nomatch h), fun h => ?_⟩, fun _ => rfl, rfl, fun h => ⟨rfl, ?_⟩⟩
    · -- only a client's fault ends a complete command
      obtain ⟨_, _, _, result, _, -, hdone⟩ :=
        @run_dispatch_simulator i (s.withBackend real) there hr hs
      have hdone : done = _ := hdone
      rw [hdone] at h
      cases result <;> cases h
    · obtain ⟨log, hlog, hsaid⟩ := run_dispatch_simulator_ok hr hs h
      refine ⟨_, _, log, List.append_assoc _ _ _, rfl, hlog, ?_⟩
      rw [hsaid]
      exact foretells_event i s _ rfl

/-- A run that succeeds, and the dry run under its other name. -/
theorem rehearsal_of_url_photos :
    let w : World :=
      { files := ⟨"/s", [(["bin", "xcrun"], .program [0x23, 0x21])]⟩
        respond := fun _ _ => .finishes ⟨.exited 0, [], []⟩ }
    let i : Invocation := ⟨some "U", false, ⟨"com.example.app", [.url, .photos], some "myapp"⟩⟩
    let s : Settings := { configPath := "config.toml" }
    let rehearsed := (i.dispatch (s.withBackend "none")).run ⟨w, []⟩
    let done := (i.dispatch (s.withBackend "simctl")).run ⟨w, []⟩
    done.1 = .ok () ∧ rehearsed.1 = .ok () ∧ ∃ event,
      saying "dry-run: would approve permissions" rehearsed.2.log = [event] ∧
      Foretells i s event (saying "permission granted" done.2.log) := by
  intro w i s rehearsed done
  have hok : done.1 = .ok () := by decide +kernel
  obtain ⟨-, -, -, hforetold⟩ := rehearsal i s ⟨w, []⟩ ⟨w, []⟩ (.inr rfl) (.inl rfl)
  obtain ⟨hr, event, log, log', hlog, hsaid, hlog', hf⟩ := hforetold hok
  refine ⟨hok, hr, event, ?_, ?_⟩
  · rw [hlog]
    exact hsaid
  · rw [hlog']
    exact hf

end CommandLine.Invocation

end SimApprove

import SimApprove.Client.DryRun
import SimApprove.Client.Simulator
import SimApprove.Settings.Basic

/-!
# Backends

The clients that can be configured by name. A backend has several names; the
empty one stands for the simulator.
-/

namespace SimApprove

inductive Backend
  | simulator
  | dryRun
  deriving DecidableEq, Repr

def Backend.ofName? (name : String) : Option Backend :=
  if name = "simctl" ∨ name = "" then some .simulator
  else if name = "dry-run" ∨ name = "none" then some .dryRun
  else none

theorem Backend.ofName?_eq_simulator_iff {name : String} :
    ofName? name = some .simulator ↔ name = "simctl" ∨ name = "" := by
  unfold ofName?
  split
  · simp_all
  · split <;> simp_all

theorem Backend.ofName?_eq_dryRun_iff {name : String} :
    ofName? name = some .dryRun ↔ name = "dry-run" ∨ name = "none" := by
  unfold ofName?
  split
  · rename_i h
    rcases h with rfl | rfl <;> simp
  · split <;> simp_all

theorem Backend.exists_ofName?_iff {name : String} :
    (∃ b, ofName? name = some b) ↔ name ∈ Settings.backendNames := by
  constructor
  · rintro ⟨_ | _, h⟩
    · rcases ofName?_eq_simulator_iff.mp h with rfl | rfl <;> decide
    · rcases ofName?_eq_dryRun_iff.mp h with rfl | rfl <;> decide
  · intro h
    simp only [Settings.backendNames, List.mem_cons, List.not_mem_nil, or_false] at h
    rcases h with rfl | rfl | rfl | rfl
    · exact ⟨.simulator, rfl⟩
    · exact ⟨.dryRun, rfl⟩
    · exact ⟨.dryRun, rfl⟩
    · exact ⟨.simulator, rfl⟩

namespace ClientSettings

def simulator (s : ClientSettings) (udid : String) : Simulator where
  udid := udid
  xcrun := s.xcrunPath
  limit := ⟨s.timeoutSeconds.toNat, 0⟩

def toClient (s : ClientSettings) (udid : String) : Except ConfigError (Client World) :=
  match Backend.ofName? s.backend with
  | some .simulator => .ok (s.simulator udid).client
  | some .dryRun => .ok (DryRun.client World udid)
  | none => .error (.unknownBackend s.backend)

theorem exists_toClient_of_ofName? {s : ClientSettings} {b : Backend}
    (h : Backend.ofName? s.backend = some b) (udid : String) :
    ∃ client, s.toClient udid = .ok client := by
  rw [toClient, h]
  cases b <;> exact ⟨_, rfl⟩

theorem toClient_of_unknown {s : ClientSettings} (h : Backend.ofName? s.backend = none)
    (udid : String) : s.toClient udid = .error (.unknownBackend s.backend) := by
  rw [toClient, h]

end ClientSettings

end SimApprove

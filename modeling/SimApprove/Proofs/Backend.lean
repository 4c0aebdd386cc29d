import SimApprove.Proofs.Dispatch
import SimApprove.Proofs.Settings.Validation

/-!
# Settings that are accepted can be served

Validation goes by a list of names, and the choice of the client by the names of each
backend. `exists_toClient_iff` and `toClient_eq_error_iff` say the same of both: a client is
refused for the one reason that its name is not in the list. A dispatch then has no
complaint of its own about settings that passed (`dispatch_ne_configError`).
-/

namespace SimApprove

variable {s : Settings} {udid : String}

-- ---------------------------------------------------------------------------
-- The two tables of names
-- ---------------------------------------------------------------------------

namespace ClientSettings

theorem exists_toClient_iff (c : ClientSettings) (udid : String) :
    (∃ client, c.toClient udid = .ok client) ↔ c.backend ∈ Settings.backendNames := by
  rw [← Backend.exists_ofName?_iff]
  constructor
  · rintro ⟨client, h⟩
    rw [← Option.ne_none_iff_exists']
    intro hn
    rw [toClient_of_unknown hn] at h
    cases h
  · rintro ⟨b, hb⟩
    exact exists_toClient_of_ofName? hb udid

theorem toClient_eq_error_iff {c : ClientSettings} {e : ConfigError} :
    c.toClient udid = .error e ↔
      c.backend ∉ Settings.backendNames ∧ e = .unknownBackend c.backend := by
  rw [← Backend.exists_ofName?_iff]
  cases hb : Backend.ofName? c.backend with
  | none => simp [toClient_of_unknown hb, eq_comm]
  | some b =>
    obtain ⟨client, hc⟩ := exists_toClient_of_ofName? hb udid
    simp [hc]

end ClientSettings

namespace Settings

theorem validate_eq_unknownBackend_iff {b : String} :
    s.validate = .error (.unknownBackend b) ↔
      s.HasTime ∧ s.HasTool ∧ s.client.backend ∉ backendNames ∧ b = s.client.backend := by
  rw [validate_eq_error_iff, ← hasBackend_iff_mem]
  constructor
  · intro h
    cases h with
    | backend ht hx hb => exact ⟨ht, hx, hb, rfl⟩
  · rintro ⟨ht, hx, hb, rfl⟩
    exact .backend ht hx hb

-- ---------------------------------------------------------------------------
-- Settings that passed
-- ---------------------------------------------------------------------------

theorem ofText?_logLevel (h : s.validate = .ok ()) :
    Log.Level.ofText? s.logLevel = some s.level := by
  obtain ⟨l, hl⟩ := (validate_eq_ok_iff.mp h).level
  rw [level, Log.Level.ofText?_eq_some_iff.mpr hl]
  rfl

theorem dispatch_ne_configError (h : s.validate = .ok ()) (i : CommandLine.Invocation)
    (session : Session World) (e : ConfigError) :
    ((i.dispatch s).run session).1 ≠ .error (.config e) := by
  obtain ⟨outcome, hr, hd⟩ := i.exists_dispatched s session
  rw [hr]
  cases hd with
  | unknown hb =>
    obtain ⟨b, hb'⟩ := Backend.exists_ofName?_iff.mpr (backend_mem_of_validate h)
    rw [hb'] at hb
    cases hb
  | refused => simp
  | rehearsed => simp
  | @simulated _ _ _ result => cases result <;> simp [Except.mapError]

end Settings

-- ---------------------------------------------------------------------------
-- What validation promises
-- ---------------------------------------------------------------------------

theorem accepted_settings_served (s : Settings) :
    (s.validate = .ok () →
      (∀ udid, ∃ client, s.client.toClient udid = .ok client) ∧
      (∀ (i : CommandLine.Invocation) (session : Session World) (e : ConfigError),
        ((i.dispatch s).run session).1 ≠ .error (.config e)) ∧
      Log.Level.ofText? s.logLevel = some s.level ∧
      ∀ l : Log.Level, l.NamedBy s.logLevel ↔ l = s.level) ∧
    (s.HasTime → s.HasTool → ∀ udid b,
      (s.validate = .error (.unknownBackend b) ↔
        s.client.toClient udid = .error (.unknownBackend b)) ∧
      (s.validate = .error (.unknownBackend b) → b = s.client.backend)) ∧
    ∀ (c : ClientSettings) (udid : String),
      c.backend ∈ Settings.backendNames ↔ ∃ client, c.toClient udid = .ok client := by
  refine ⟨fun h => ⟨fun udid => ?_, Settings.dispatch_ne_configError h,
    Settings.ofText?_logLevel h, fun l => ?_⟩, fun ht hx udid b => ⟨?_, fun h => ?_⟩,
    fun c udid => (c.exists_toClient_iff udid).symm⟩
  · exact (s.client.exists_toClient_iff udid).mpr (Settings.backend_mem_of_validate h)
  · rw [← Log.Level.ofText?_eq_some_iff, Settings.ofText?_logLevel h, Option.some.injEq, eq_comm]
  · rw [Settings.validate_eq_unknownBackend_iff, ClientSettings.toClient_eq_error_iff,
      ConfigError.unknownBackend.injEq]
    exact ⟨fun ⟨_, _, h⟩ => h, fun h => ⟨ht, hx, h⟩⟩
  · obtain ⟨-, -, -, hb⟩ := Settings.validate_eq_unknownBackend_iff.mp h
    exact hb

end SimApprove

import SimApprove.Settings.Basic
import SimApprove.Proofs.Log.Level
import SimApprove.Proofs.Text.Blank

/-!
# Which settings are accepted

`Usable` says what settings have to be, and `FirstFault` which of several faults is
reported. `validate_eq_ok_iff` and `validate_eq_error_iff` say that settings are judged
by these.
-/

namespace SimApprove

namespace Settings

variable {s : Settings} {e : ConfigError}

-- ---------------------------------------------------------------------------
-- Usable settings
-- ---------------------------------------------------------------------------

def HasTime (s : Settings) : Prop := 0 < s.client.timeoutSeconds.toNat

def HasTool (s : Settings) : Prop := ∃ c ∈ s.client.xcrunPath.toList, Text.isBlank c = false

def HasBackend (s : Settings) : Prop :=
  s.client.backend = "simctl" ∨ s.client.backend = "dry-run" ∨ s.client.backend = "none" ∨
    s.client.backend = ""

def HasLevel (s : Settings) : Prop := ∃ l : Log.Level, l.NamedBy s.logLevel

structure Usable (s : Settings) : Prop where
  time : s.HasTime
  tool : s.HasTool
  backend : s.HasBackend
  level : s.HasLevel

/-- The error that is reported: a fault with none of the others before it. -/
inductive FirstFault (s : Settings) : ConfigError → Prop
  | time (h : ¬ s.HasTime) :
      FirstFault s (.validation "client.command_timeout_secs must be greater than 0")
  | tool (ht : s.HasTime) (h : ¬ s.HasTool) :
      FirstFault s (.validation "client.xcrun_path must not be empty")
  | backend (ht : s.HasTime) (hx : s.HasTool) (h : ¬ s.HasBackend) :
      FirstFault s (.unknownBackend s.client.backend)
  | level (ht : s.HasTime) (hx : s.HasTool) (hb : s.HasBackend) (h : ¬ s.HasLevel) :
      FirstFault s (.validation ("unknown log_level \"" ++ s.logLevel ++ "\""))

theorem hasTime_iff : s.HasTime ↔ ¬ s.client.timeoutSeconds = 0 := by
  rw [HasTime, Nat.pos_iff_ne_zero, ne_eq, ← UInt64.toNat_inj]
  rfl

theorem hasTool_iff : s.HasTool ↔ ¬ Text.trim s.client.xcrunPath = "" := by
  rw [HasTool, Text.trim_eq_empty_iff]
  simp

theorem hasBackend_iff_mem : s.HasBackend ↔ s.client.backend ∈ backendNames := by
  simp [HasBackend, backendNames]

theorem hasBackend_iff : s.HasBackend ↔ ¬ (!backendNames.contains s.client.backend) = true := by
  rw [Bool.not_eq_true', Bool.not_eq_false, List.contains_iff_mem, hasBackend_iff_mem]

theorem hasLevel_iff : s.HasLevel ↔ ¬ (Log.Level.ofText? s.logLevel).isNone = true := by
  rw [HasLevel, Log.Level.exists_namedBy_iff, Option.isNone_iff_eq_none,
    Option.isSome_iff_ne_none]

theorem usable_or_firstFault (s : Settings) :
    (s.validate = .ok () ∧ s.Usable) ∨ ∃ e, s.validate = .error e ∧ s.FirstFault e := by
  -- the checks come in the order of the faults, and each that passes is kept for the next
  unfold validate
  split
  · rename_i ht
    exact .inr ⟨_, rfl, .time fun h => hasTime_iff.mp h ht⟩
  rename_i ht
  rw [← hasTime_iff] at ht
  split
  · rename_i hx
    exact .inr ⟨_, rfl, .tool ht fun h => hasTool_iff.mp h hx⟩
  rename_i hx
  rw [← hasTool_iff] at hx
  split
  · rename_i hb
    exact .inr ⟨_, rfl, .backend ht hx fun h => hasBackend_iff.mp h hb⟩
  rename_i hb
  rw [← hasBackend_iff] at hb
  split
  · rename_i hl
    exact .inr ⟨_, rfl, .level ht hx hb fun h => hasLevel_iff.mp h hl⟩
  · rename_i hl
    exact .inl ⟨rfl, ht, hx, hb, hasLevel_iff.mpr hl⟩

theorem FirstFault.not_usable (h : s.FirstFault e) : ¬ s.Usable := by
  intro hu
  cases h with
  | time h => exact h hu.time
  | tool _ h => exact h hu.tool
  | backend _ _ h => exact h hu.backend
  | level _ _ _ h => exact h hu.level

theorem FirstFault.unique {e' : ConfigError} (h : s.FirstFault e) (h' : s.FirstFault e') :
    e = e' := by
  cases h <;> cases h' <;> first | rfl | contradiction

theorem validate_eq_ok_iff : s.validate = .ok () ↔ s.Usable := by
  rcases usable_or_firstFault s with ⟨hv, hu⟩ | ⟨e, hv, hf⟩
  · exact ⟨fun _ => hu, fun _ => hv⟩
  · refine ⟨fun h => ?_, fun h => absurd h hf.not_usable⟩
    rw [hv] at h
    cases h

theorem validate_eq_error_iff : s.validate = .error e ↔ s.FirstFault e := by
  rcases usable_or_firstFault s with ⟨hv, hu⟩ | ⟨e', hv, hf⟩
  · refine ⟨fun h => ?_, fun h => absurd hu h.not_usable⟩
    rw [hv] at h
    cases h
  · rw [hv, Except.error.injEq]
    exact ⟨fun h => h ▸ hf, fun h => hf.unique h⟩

end Settings

end SimApprove

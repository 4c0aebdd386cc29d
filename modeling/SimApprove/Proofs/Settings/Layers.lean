import SimApprove.Proofs.Settings.Document
import SimApprove.Proofs.Settings.Validation

/-!
# Layers of settings

Of each setting, the environment has the first word, the file the second, and the
default the last: `Layered` for one setting, `Settings.Layered` for all of them.
`load_layers` says that this is what is loaded, or refused for its first fault.
-/

namespace SimApprove

-- ---------------------------------------------------------------------------
-- One setting
-- ---------------------------------------------------------------------------

/-- The value is as a variable gives it, if that is a text and admissible, and else a
value of the layer below. -/
inductive Layered {α : Type} (env : Environment) (name : String) (Admits : String → α → Prop)
    (Below : α → Prop) : α → Prop
  | above {text value} (h : env.bytes? name = some text.toUTF8.toList) (ha : Admits text value) :
      Layered env name Admits Below value
  | below {value} (h : ∀ text v, env.bytes? name = some text.toUTF8.toList → ¬ Admits text v)
      (hb : Below value) : Layered env name Admits Below value

def AdmitsText (text value : String) : Prop := text ≠ "" ∧ value = text

def AdmitsSome (text : String) (value : Option String) : Prop := text ≠ "" ∧ value = some text

def AdmitsSeconds (text : String) (seconds : UInt64) : Prop := Text.Writes text seconds.toNat

def AdmitsLevel (text value : String) : Prop := (∃ l : Log.Level, l.NamedBy text) ∧ value = text

namespace Environment

variable {env : Environment} {name text : String}

theorem text?_eq_some_iff :
    env.text? name = some text ↔ env.bytes? name = some text.toUTF8.toList := by
  simp only [text?, Option.bind_eq_some_iff, Text.Utf8.decode?_eq_some_iff]
  exact ⟨fun ⟨_, h, hb⟩ => hb ▸ h, fun h => ⟨_, h, rfl⟩⟩

theorem nonempty?_eq_some_iff {value : String} : env.nonempty? name = some value ↔
    ∃ text, env.bytes? name = some text.toUTF8.toList ∧ AdmitsText text value := by
  simp only [nonempty?, Option.filter_eq_some_iff, text?_eq_some_iff, AdmitsText, decide_eq_true_eq]
  exact ⟨fun ⟨h, hn⟩ => ⟨value, h, hn, rfl⟩, fun ⟨_, h, hn, he⟩ => he ▸ ⟨h, hn⟩⟩

theorem timeoutSeconds?_eq_some_iff {seconds : UInt64} : env.timeoutSeconds? = some seconds ↔
    ∃ text, env.bytes? "IDBCTL_TIMEOUT_SECS" = some text.toUTF8.toList ∧
      AdmitsSeconds text seconds := by
  simp only [timeoutSeconds?, Option.bind_eq_some_iff, text?_eq_some_iff,
    Text.readUnsigned_eq_some_iff, AdmitsSeconds]

theorem logLevel?_eq_some_iff {value : String} : env.logLevel? = some value ↔
    ∃ text, env.bytes? "IDBCTL_LOG_LEVEL" = some text.toUTF8.toList ∧ AdmitsLevel text value := by
  simp only [logLevel?, Option.filter_eq_some_iff, text?_eq_some_iff, AdmitsLevel,
    Log.Level.exists_namedBy_iff]
  exact ⟨fun ⟨h, hn⟩ => ⟨value, h, hn, rfl⟩, fun ⟨_, h, hn, he⟩ => he ▸ ⟨h, hn⟩⟩

end Environment

section
variable {α : Type} {env : Environment} {name : String} {Admits : String → α → Prop}
  {Below : α → Prop} {value? : Option α} {lower : α}

theorem layered_getD (h : ∀ value, value? = some value ↔
      ∃ text, env.bytes? name = some text.toUTF8.toList ∧ Admits text value)
    (hb : Below lower) : Layered env name Admits Below (value?.getD lower) := by
  cases hv : value? with
  | none =>
    refine .below (fun text v ht ha => ?_) hb
    rw [(h v).mpr ⟨text, ht, ha⟩] at hv
    cases hv
  | some value =>
    obtain ⟨text, ht, ha⟩ := (h value).mp hv
    exact .above ht ha

end

-- ---------------------------------------------------------------------------
-- All settings
-- ---------------------------------------------------------------------------

namespace Settings

variable {files : FileTree} {env : Environment} {home : List UInt8} {file s : Settings}
  {entries : Toml.Table}

/-- What the file below a home directory has to say. There is none below a directory whose
name is no text. -/
inductive HeldBelow (files : FileTree) (home : List UInt8) : Toml.Table → Prop
  | named {name entries} (hn : home = name.toUTF8.toList)
      (h : Held files (Environment.configPath name) entries) : HeldBelow files home entries
  | unnamed (h : Text.Utf8.decode? home = none) : HeldBelow files home []

theorem exists_held_of_loadBelow (h : loadBelow files home = .ok s) :
    s.configPath = Environment.configPath (Text.Utf8.decodeLossy home) ∧
      ∃ entries, HeldBelow files home entries ∧ Documented entries s := by
  unfold loadBelow at h
  split at h
  · rename_i name hname
    obtain rfl := Text.Utf8.decode?_eq_some_iff.mp hname
    obtain ⟨hpath, entries, hheld, hdoc⟩ := exists_held_of_loadFrom h
    rw [Text.Utf8.decodeLossy_toUTF8]
    exact ⟨hpath, entries, .named rfl hheld, hdoc⟩
  · rename_i hname
    cases h
    exact ⟨rfl, [], .unnamed hname, documented_nil _⟩

structure Layered (env : Environment) (entries : Toml.Table) (s : Settings) : Prop where
  defaultUdid : SimApprove.Layered env "IDBCTL_UDID" AdmitsSome
    (Entry entries "default_udid" HoldsSome none) s.defaultUdid
  logLevel : SimApprove.Layered env "IDBCTL_LOG_LEVEL" AdmitsLevel
    (Entry entries "log_level" HoldsText "warn") s.logLevel
  backend : SimApprove.Layered env "IDBCTL_BACKEND" AdmitsText
    (Entry (clientEntries entries) "backend" HoldsText "simctl") s.client.backend
  xcrunPath : SimApprove.Layered env "IDBCTL_XCRUN" AdmitsText
    (Entry (clientEntries entries) "xcrun_path" HoldsText "xcrun") s.client.xcrunPath
  timeoutSeconds : SimApprove.Layered env "IDBCTL_TIMEOUT_SECS" AdmitsSeconds
    (Entry (clientEntries entries) "command_timeout_secs" HoldsSeconds 60) s.client.timeoutSeconds

theorem layered_overriddenBy (h : Documented entries file) :
    Layered env entries (file.overriddenBy env) where
  defaultUdid := by
    -- this setting may be missing in every layer, so what is layered is an option
    have hor : env.udid?.or file.defaultUdid = (env.udid?.map some).getD file.defaultUdid := by
      cases env.udid? <;> rfl
    show SimApprove.Layered _ _ _ _ (env.udid?.or file.defaultUdid)
    rw [hor]
    refine layered_getD (fun value => ?_) h.defaultUdid
    simp only [Option.map_eq_some_iff, Environment.udid?, Environment.nonempty?_eq_some_iff,
      AdmitsText, AdmitsSome]
    exact ⟨fun ⟨_, ⟨text, ht, hn, he⟩, hv⟩ => ⟨text, ht, hn, he ▸ hv.symm⟩,
      fun ⟨text, ht, hn, hv⟩ => ⟨text, ⟨text, ht, hn, rfl⟩, hv.symm⟩⟩
  logLevel := layered_getD (fun _ => Environment.logLevel?_eq_some_iff) h.logLevel
  backend := layered_getD (fun _ => Environment.nonempty?_eq_some_iff) h.client.backend
  xcrunPath := layered_getD (fun _ => Environment.nonempty?_eq_some_iff) h.client.xcrunPath
  timeoutSeconds :=
    layered_getD (fun _ => Environment.timeoutSeconds?_eq_some_iff) h.client.timeoutSeconds

/-- No setting depends on a variable that is not its own. -/
structure Separate (file : Settings) (env env' : Environment) : Prop where
  defaultUdid : env.bytes? "IDBCTL_UDID" = env'.bytes? "IDBCTL_UDID" →
    (file.overriddenBy env).defaultUdid = (file.overriddenBy env').defaultUdid
  logLevel : env.bytes? "IDBCTL_LOG_LEVEL" = env'.bytes? "IDBCTL_LOG_LEVEL" →
    (file.overriddenBy env).logLevel = (file.overriddenBy env').logLevel
  backend : env.bytes? "IDBCTL_BACKEND" = env'.bytes? "IDBCTL_BACKEND" →
    (file.overriddenBy env).client.backend = (file.overriddenBy env').client.backend
  xcrunPath : env.bytes? "IDBCTL_XCRUN" = env'.bytes? "IDBCTL_XCRUN" →
    (file.overriddenBy env).client.xcrunPath = (file.overriddenBy env').client.xcrunPath
  timeoutSeconds : env.bytes? "IDBCTL_TIMEOUT_SECS" = env'.bytes? "IDBCTL_TIMEOUT_SECS" →
    (file.overriddenBy env).client.timeoutSeconds = (file.overriddenBy env').client.timeoutSeconds

theorem separate (file : Settings) (env env' : Environment) : Separate file env env' where
  defaultUdid h := by
    simp only [overriddenBy, Environment.udid?, Environment.nonempty?, Environment.text?, h]
  logLevel h := by simp only [overriddenBy, Environment.logLevel?, Environment.text?, h]
  backend h := by
    simp only [overriddenBy, Environment.backend?, Environment.nonempty?, Environment.text?, h]
  xcrunPath h := by
    simp only [overriddenBy, Environment.xcrunPath?, Environment.nonempty?, Environment.text?, h]
  timeoutSeconds h := by
    simp only [overriddenBy, Environment.timeoutSeconds?, Environment.text?, h]

theorem load_eq (hh : env.home? = some home) (hf : loadBelow files home = .ok file) :
    load files env = (file.overriddenBy env).validate.map fun _ => file.overriddenBy env := by
  unfold load
  simp only [hh, hf]
  rfl

/-- What is loaded: layer upon layer, validated as a whole. -/
theorem load_layers (hh : env.home? = some home) (hf : loadBelow files home = .ok file) :
    (∃ entries, HeldBelow files home entries ∧ Layered env entries (file.overriddenBy env)) ∧
    (file.overriddenBy env).configPath =
      Environment.configPath (Text.Utf8.decodeLossy home) ∧
    (∀ env', Separate file env env') ∧
    (∀ s, load files env = .ok s ↔ s = file.overriddenBy env ∧ (file.overriddenBy env).Usable) ∧
    (∀ e, load files env = .error e ↔ (file.overriddenBy env).FirstFault e) := by
  obtain ⟨hpath, entries, hheld, hdoc⟩ := exists_held_of_loadBelow hf
  refine ⟨⟨entries, hheld, layered_overriddenBy hdoc⟩, hpath, separate file env, fun s => ?_,
    fun e => ?_⟩
  · rw [load_eq hh hf, map_eq_ok_iff]
    constructor
    · rintro ⟨⟨⟩, hv, rfl⟩
      exact ⟨rfl, validate_eq_ok_iff.mp hv⟩
    · rintro ⟨rfl, hu⟩
      exact ⟨(), validate_eq_ok_iff.mpr hu, rfl⟩
  · rw [load_eq hh hf, ← validate_eq_error_iff]
    cases (file.overriddenBy env).validate <;> simp [Except.map]

/-- A variable that is no text leaves the file's setting, and so does an unknown level. -/
theorem load_layers_of_document :
    let document := "default_udid = \"U\"\nlog_level = \"info\"\n[client]\nbackend = \"none\"\n"
    let files : FileTree :=
      ⟨"/s", [(["home", ".idbctl", "config.toml"], .document document.toUTF8.toList)]⟩
    let env : Environment :=
      ⟨[("HOME", "/s/home".toUTF8.toList), ("IDBCTL_UDID", [0xFF]),
        ("IDBCTL_LOG_LEVEL", "loud".toUTF8.toList),
        ("IDBCTL_TIMEOUT_SECS", "+07".toUTF8.toList)], none⟩
    load files env = .ok
      { configPath := "/s/home/.idbctl/config.toml", defaultUdid := some "U", logLevel := "info",
        client := { backend := "none", timeoutSeconds := 7 } } := by
  intro document files env
  let file : Settings :=
    { configPath := "/s/home/.idbctl/config.toml", defaultUdid := some "U", logLevel := "info",
      client := { backend := "none" } }
  have hh : env.home? = some "/s/home".toUTF8.toList := by decide +kernel
  have hf : loadBelow files "/s/home".toUTF8.toList = .ok file := by decide +kernel
  have hv : (file.overriddenBy env).validate = .ok () := by decide +kernel
  have heq : file.overriddenBy env =
      { file with client := { backend := "none", timeoutSeconds := 7 } } := by decide +kernel
  obtain ⟨-, -, -, hload, -⟩ := load_layers hh hf
  exact (hload _).mpr ⟨heq.symm, validate_eq_ok_iff.mp hv⟩

end Settings

end SimApprove

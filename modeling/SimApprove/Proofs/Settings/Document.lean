import SimApprove.Settings.Loading
import SimApprove.Proofs.Text.Utf8
import SimApprove.Proofs.Toml.Keys

/-!
# What a document says about the settings

`Entry` relates the entries of a table, a key and a value: the value is what the entry
with the key holds, or what stands where there is none. `documented_of_ofTable` says
that of each setting that is taken from a document, and `exists_held_of_loadFrom` of each
that is taken from a file, present or not.
-/

namespace SimApprove

-- ---------------------------------------------------------------------------
-- Entries
-- ---------------------------------------------------------------------------

/-- The value is as an entry gives it, or the default if no entry has the key. -/
def Entry {α : Type} (entries : Toml.Table) (key : String) (Holds : Toml.Value → α → Prop)
    (default value : α) : Prop :=
  match Toml.find? entries key with
  | some v => Holds v value
  | none => value = default

def Distinct (entries : Toml.Table) : Prop := entries.Pairwise (·.1 ≠ ·.1)

theorem distinct_of_sorted {entries : Toml.Table} (h : Toml.Sorted entries) : Distinct entries :=
  h.imp ne_of_lt

theorem Distinct.nodup {entries : Toml.Table} (h : Distinct entries) :
    (entries.map Prod.fst).Nodup := List.pairwise_map.mpr h

theorem distinct_zip {keys : List String} (h : keys.Nodup) (items : List Toml.Value) :
    Distinct (keys.zip items) := by
  induction keys generalizing items with
  | nil => exact List.Pairwise.nil
  | cons key keys ih =>
    obtain ⟨hkey, hkeys⟩ := List.nodup_cons.mp h
    cases items with
    | nil => exact List.Pairwise.nil
    | cons item items =>
      refine List.pairwise_cons.mpr ⟨fun entry he heq => ?_, ih hkeys items⟩
      obtain rfl : key = entry.1 := heq
      exact hkey (List.of_mem_zip he).1

theorem entry_of_foldlM {α σ : Type} {set : σ → String → Toml.Value → Except Misfit σ}
    {key : String} {s s' : σ} {entries : Toml.Table} (field : σ → α)
    (Holds : Toml.Value → α → Prop)
    (hset : ∀ s k v s', set s k v = .ok s' →
      if k = key then Holds v (field s') else field s' = field s)
    (hd : Distinct entries) (h : entries.foldlM (fun s entry => set s entry.1 entry.2) s = .ok s') :
    Entry entries key Holds (field s) (field s') := by
  induction entries generalizing s with
  | nil =>
    cases h
    rfl
  | cons head rest ih =>
    obtain ⟨k, v⟩ := head
    obtain ⟨hhead, hrest⟩ := List.pairwise_cons.mp hd
    rw [List.foldlM_cons] at h
    obtain ⟨next, hn, h⟩ := bind_eq_ok_iff.mp h
    have hnext := hset s k v next hn
    have hlater := ih hrest h
    rw [Entry, Toml.find?_cons]
    split at hnext
    · rename_i hk
      rw [if_pos hk]
      -- what has been set stays, for the key does not come again
      have hnone : Toml.find? rest key = none := by
        cases hf : Toml.find? rest key with
        | none => rfl
        | some w => exact absurd hk (hhead _ (Toml.mem_of_find? hf))
      rw [Entry, hnone] at hlater
      exact hlater ▸ hnext
    · rename_i hk
      rw [if_neg hk]
      rwa [hnext] at hlater

-- ---------------------------------------------------------------------------
-- Single values
-- ---------------------------------------------------------------------------

def HoldsText (v : Toml.Value) (text : String) : Prop := v = .string text

def HoldsSeconds (v : Toml.Value) (seconds : UInt64) : Prop := v = .integer seconds.toNat

theorem textOf_eq_ok_iff {v : Toml.Value} {text : String} :
    textOf v = .ok text ↔ HoldsText v text := by
  cases v <;> simp [textOf, HoldsText]

theorem fitsUnsigned_toNat (n : UInt64) : Text.fitsUnsigned 64 n.toNat = true := by
  have hbound : Text.widthBound 64 = 18446744073709551616 := by decide
  have hlt := n.toNat_lt
  simp only [Text.fitsUnsigned, hbound, Bool.and_eq_true, decide_eq_true_eq]
  omega

theorem secondsOf_toNat (n : UInt64) : secondsOf (.integer n.toNat) = .ok n := by
  simp [secondsOf, fitsUnsigned_toNat n]

theorem secondsOf_eq_ok_iff {v : Toml.Value} {seconds : UInt64} :
    secondsOf v = .ok seconds ↔ HoldsSeconds v seconds := by
  refine ⟨fun h => ?_, fun h => h ▸ secondsOf_toNat seconds⟩
  unfold secondsOf at h
  split at h
  · rename_i n
    split at h
    · rename_i hfits
      cases h
      obtain ⟨hlow, hhigh⟩ := (Bool.and_eq_true _ _).mp hfits
      have hrange : 0 ≤ n ∧ n < Int.ofNat (Nat.pow 2 64) :=
        ⟨of_decide_eq_true hlow, of_decide_eq_true hhigh⟩
      have hlt : n.toNat < UInt64.size := (Int.toNat_lt hrange.1).mpr hrange.2
      rw [HoldsSeconds, UInt64.toNat_ofNat_of_lt' hlt, Int.toNat_of_nonneg hrange.1]
    · split at h <;> cases h
  · cases h

theorem eq_of_passOver {α : Type} {unchanged result : α} {v : Toml.Value}
    (h : passOver unchanged v = .ok result) : result = unchanged := by
  unfold passOver at h
  split at h <;> cases h
  rfl

-- ---------------------------------------------------------------------------
-- The client's settings
-- ---------------------------------------------------------------------------

namespace ClientSettings

theorem setAll_eq_foldlM (entries : Toml.Table) (s : ClientSettings) :
    s.setAll entries = entries.foldlM (fun s entry => s.set entry.1 entry.2) s := by
  induction entries generalizing s with
  | nil => rfl
  | cons entry rest ih =>
    rw [List.foldlM_cons, setAll]
    simp only [ih]

structure Step (key : String) (v : Toml.Value) (s s' : ClientSettings) : Prop where
  backend : if key = "backend" then HoldsText v s'.backend else s'.backend = s.backend
  xcrunPath : if key = "xcrun_path" then HoldsText v s'.xcrunPath else s'.xcrunPath = s.xcrunPath
  timeoutSeconds : if key = "command_timeout_secs" then HoldsSeconds v s'.timeoutSeconds
    else s'.timeoutSeconds = s.timeoutSeconds

theorem step_of_set {s s' : ClientSettings} {key : String} {v : Toml.Value}
    (h : s.set key v = .ok s') : Step key v s s' := by
  unfold set at h
  split at h
  · obtain ⟨text, ht, rfl⟩ := map_eq_ok_iff.mp h
    exact ⟨(if_pos rfl).mpr (textOf_eq_ok_iff.mp ht), rfl, rfl⟩
  · obtain ⟨text, ht, rfl⟩ := map_eq_ok_iff.mp h
    exact ⟨rfl, (if_pos rfl).mpr (textOf_eq_ok_iff.mp ht), rfl⟩
  · obtain ⟨seconds, hs, rfl⟩ := map_eq_ok_iff.mp h
    exact ⟨rfl, rfl, (if_pos rfl).mpr (secondsOf_eq_ok_iff.mp hs)⟩
  · rename_i hb hx ht
    rw [eq_of_passOver h]
    exact ⟨(if_neg hb).mpr rfl, (if_neg hx).mpr rfl, (if_neg ht).mpr rfl⟩

structure Documented (entries : Toml.Table) (s : ClientSettings) : Prop where
  backend : Entry entries "backend" HoldsText "simctl" s.backend
  xcrunPath : Entry entries "xcrun_path" HoldsText "xcrun" s.xcrunPath
  timeoutSeconds : Entry entries "command_timeout_secs" HoldsSeconds 60 s.timeoutSeconds

theorem documented_of_setAll {entries : Toml.Table} {s : ClientSettings} (hd : Distinct entries)
    (h : setAll {} entries = .ok s) : Documented entries s := by
  rw [setAll_eq_foldlM] at h
  exact
    { backend := entry_of_foldlM _ HoldsText (fun _ _ _ _ h => (step_of_set h).backend) hd h
      xcrunPath := entry_of_foldlM _ HoldsText (fun _ _ _ _ h => (step_of_set h).xcrunPath) hd h
      timeoutSeconds :=
        entry_of_foldlM _ HoldsSeconds (fun _ _ _ _ h => (step_of_set h).timeoutSeconds) hd h }

def entriesOf : Toml.Value → Toml.Table
  | .table entries => entries
  | .array items => keys.zip items
  | _ => []

theorem documented_nil : Documented [] {} := ⟨rfl, rfl, rfl⟩

theorem distinct_entriesOf {v : Toml.Value} (h : v.Ordered) : Distinct (entriesOf v) := by
  cases h with
  | @scalar v h => cases v <;> first | exact List.Pairwise.nil | cases h
  | array _ => exact distinct_zip (by decide) _
  | table hs _ => exact distinct_of_sorted hs

theorem documented_of_ofValue {v : Toml.Value} {s : ClientSettings} (hd : Distinct (entriesOf v))
    (h : ofValue v = .ok s) : Documented (entriesOf v) s := by
  unfold ofValue at h
  split at h
  · exact documented_of_setAll hd h
  · exact documented_of_setAll hd h
  · cases h
    exact documented_nil
  · cases h

end ClientSettings

-- ---------------------------------------------------------------------------
-- All settings
-- ---------------------------------------------------------------------------

namespace Settings

def HoldsSome (v : Toml.Value) (text? : Option String) : Prop :=
  ∃ text, HoldsText v text ∧ text? = some text

theorem setAll_eq_foldlM (entries : Toml.Table) (s : Settings) :
    s.setAll entries = entries.foldlM (fun s entry => s.set entry.1 entry.2) s := by
  induction entries generalizing s with
  | nil => rfl
  | cons entry rest ih =>
    rw [List.foldlM_cons, setAll]
    simp only [ih]

structure Step (key : String) (v : Toml.Value) (s s' : Settings) : Prop where
  configPath : s'.configPath = s.configPath
  defaultUdid : if key = "default_udid" then HoldsSome v s'.defaultUdid
    else s'.defaultUdid = s.defaultUdid
  logLevel : if key = "log_level" then HoldsText v s'.logLevel else s'.logLevel = s.logLevel
  client : if key = "client" then ClientSettings.ofValue v = .ok s'.client else s'.client = s.client

theorem step_of_set {s s' : Settings} {key : String} {v : Toml.Value} (h : s.set key v = .ok s') :
    Step key v s s' := by
  unfold set at h
  split at h
  · obtain ⟨text, ht, rfl⟩ := map_eq_ok_iff.mp h
    exact ⟨rfl, (if_pos rfl).mpr ⟨text, textOf_eq_ok_iff.mp ht, rfl⟩, rfl, rfl⟩
  · obtain ⟨text, ht, rfl⟩ := map_eq_ok_iff.mp h
    exact ⟨rfl, rfl, (if_pos rfl).mpr (textOf_eq_ok_iff.mp ht), rfl⟩
  · obtain ⟨client, hc, rfl⟩ := map_eq_ok_iff.mp h
    exact ⟨rfl, rfl, rfl, (if_pos rfl).mpr hc⟩
  · rename_i hd hl hc
    rw [eq_of_passOver h]
    exact ⟨rfl, (if_neg hd).mpr rfl, (if_neg hl).mpr rfl, (if_neg hc).mpr rfl⟩

theorem configPath_of_setAll {entries : Toml.Table} {s s' : Settings}
    (h : s.setAll entries = .ok s') : s'.configPath = s.configPath := by
  induction entries generalizing s with
  | nil =>
    cases h
    rfl
  | cons entry rest ih =>
    obtain ⟨next, hn, h⟩ := bind_eq_ok_iff.mp h
    exact (ih h).trans (step_of_set hn).configPath

def clientEntries (entries : Toml.Table) : Toml.Table :=
  ((Toml.find? entries "client").map ClientSettings.entriesOf).getD []

theorem clientEntries_eq {entries : Toml.Table} {v : Toml.Value}
    (h : Toml.find? entries "client" = some v) :
    clientEntries entries = ClientSettings.entriesOf v := by
  rw [clientEntries, h]
  rfl

theorem clientEntries_eq_nil {entries : Toml.Table} (h : Toml.find? entries "client" = none) :
    clientEntries entries = [] := by
  rw [clientEntries, h]
  rfl

/-- Neither at the top nor for the client is a key there twice. -/
structure UniqueKeys (entries : Toml.Table) : Prop where
  top : Distinct entries
  client : Distinct (clientEntries entries)

theorem uniqueKeys_of_ordered {entries : Toml.Table} (h : (Toml.Value.table entries).Ordered) :
    UniqueKeys entries := by
  cases h with
  | scalar h => cases h
  | table hs hall =>
    refine ⟨distinct_of_sorted hs, ?_⟩
    cases hf : Toml.find? entries "client" with
    | none =>
      rw [clientEntries_eq_nil hf]
      exact List.Pairwise.nil
    | some v =>
      rw [clientEntries_eq hf]
      exact ClientSettings.distinct_entriesOf (hall _ (Toml.mem_of_find? hf))

structure Documented (entries : Toml.Table) (s : Settings) : Prop where
  defaultUdid : Entry entries "default_udid" HoldsSome none s.defaultUdid
  logLevel : Entry entries "log_level" HoldsText "warn" s.logLevel
  client : ClientSettings.Documented (clientEntries entries) s.client

theorem documented_of_ofTable {path : String} {entries : Toml.Table} {s : Settings}
    (hu : UniqueKeys entries) (h : ofTable path entries = .ok s) :
    s.configPath = path ∧ Documented entries s := by
  have hpath := configPath_of_setAll h
  rw [ofTable, setAll_eq_foldlM] at h
  have hclient := entry_of_foldlM Settings.client (fun v c => ClientSettings.ofValue v = .ok c)
    (fun _ _ _ _ h => (step_of_set h).client) hu.top h
  refine ⟨hpath, ?_, ?_, ?_⟩
  · exact entry_of_foldlM _ HoldsSome (fun _ _ _ _ h => (step_of_set h).defaultUdid) hu.top h
  · exact entry_of_foldlM _ HoldsText (fun _ _ _ _ h => (step_of_set h).logLevel) hu.top h
  · unfold Entry at hclient
    have hd := hu.client
    cases hf : Toml.find? entries "client" with
    | none =>
      rw [hf] at hclient
      rw [clientEntries_eq_nil hf]
      exact hclient ▸ ClientSettings.documented_nil
    | some v =>
      rw [hf] at hclient
      rw [clientEntries_eq hf] at hd ⊢
      exact ClientSettings.documented_of_ofValue hd hclient

-- ---------------------------------------------------------------------------
-- Files
-- ---------------------------------------------------------------------------

/-- What the file at a path has to say: nothing if it does not exist. -/
inductive Held (files : FileTree) (path : String) : Toml.Table → Prop
  | absent (h : files.has path = false) : Held files path []
  | document {text entries} (h : files.has path = true)
      (hr : files.read path = .ok text.toUTF8.toList) (hp : Toml.parse text = .ok entries) :
      Held files path entries

theorem documented_nil (path : String) : Documented [] { configPath := path } :=
  ⟨rfl, rfl, ClientSettings.documented_nil⟩

theorem exists_held_of_loadFrom {files : FileTree} {path : String} {s : Settings}
    (h : loadFrom files path = .ok s) :
    s.configPath = path ∧ ∃ entries, Held files path entries ∧ Documented entries s := by
  unfold loadFrom at h
  split at h
  · rename_i hf
    split at h
    · cases h
    rename_i bytes hr
    split at h
    · cases h
    rename_i text ht
    rw [Text.Utf8.decode?_eq_some_iff.mp ht] at hr
    unfold ofDocument at h
    split at h
    · cases h
    rename_i entries hp
    split at h
    · cases h
    rename_i hs
    cases h
    obtain ⟨hpath, hd⟩ :=
      documented_of_ofTable (uniqueKeys_of_ordered (Toml.ordered_of_parse hp)) hs
    exact ⟨hpath, entries, .document hf hr hp, hd⟩
  · rename_i hf
    cases h
    exact ⟨rfl, [], .absent (by simpa using hf), documented_nil path⟩

end Settings

end SimApprove

import SimApprove.Proofs.Settings.Document

/-!
# Which documents give settings

A document is taken if the values under the keys that are known have their types, `Typed`,
and the numbers under all other keys have a value, `Numbered`. `exists_ofTable_iff` says so,
and `ofTable_eq_ok_iff` says with it what is taken.
-/

namespace SimApprove

-- ---------------------------------------------------------------------------
-- Entries, one by one
-- ---------------------------------------------------------------------------

theorem exists_foldlM_iff {σ : Type} {set : σ → String → Toml.Value → Except Misfit σ}
    {Fits : String → Toml.Value → Prop}
    (hset : ∀ s key v, (∃ s', set s key v = .ok s') ↔ Fits key v) (entries : Toml.Table) (s : σ) :
    (∃ s', entries.foldlM (fun s entry => set s entry.1 entry.2) s = .ok s') ↔
      ∀ entry ∈ entries, Fits entry.1 entry.2 := by
  induction entries generalizing s with
  | nil => exact ⟨fun _ _ he => (nomatch he), fun _ => ⟨s, rfl⟩⟩
  | cons entry rest ih =>
    rw [List.forall_mem_cons]
    constructor
    · rintro ⟨s', h⟩
      rw [List.foldlM_cons] at h
      obtain ⟨next, hn, h⟩ := bind_eq_ok_iff.mp h
      exact ⟨(hset s _ _).mp ⟨next, hn⟩, (ih next).mp ⟨s', h⟩⟩
    · rintro ⟨hentry, hrest⟩
      obtain ⟨next, hn⟩ := (hset s _ _).mpr hentry
      obtain ⟨s', h⟩ := (ih next).mpr hrest
      exact ⟨s', by rw [List.foldlM_cons, hn]; exact h⟩

def IfPresent (entries : Toml.Table) (key : String) (Kind : Toml.Value → Prop) : Prop :=
  ∀ v, Toml.find? entries key = some v → Kind v

/-- Every number under a key that is none of these has a value. -/
def NumberedBeyond (keys : List String) (entries : Toml.Table) : Prop :=
  ∀ entry ∈ entries, entry.1 ∉ keys → entry.2.isReadable = true

section
variable {entries entries' : Toml.Table} {key : String} {Kind : Toml.Value → Prop}

theorem ifPresent_iff (hd : Distinct entries) :
    IfPresent entries key Kind ↔ ∀ entry ∈ entries, entry.1 = key → Kind entry.2 := by
  constructor
  · rintro h ⟨k, v⟩ he rfl
    exact h v ((Toml.find?_eq_some_iff hd.nodup).mpr he)
  · intro h v hf
    exact h (key, v) (Toml.mem_of_find? hf) rfl

theorem ifPresent_congr (h : Toml.find? entries key = Toml.find? entries' key) :
    IfPresent entries key Kind ↔ IfPresent entries' key Kind := by
  rw [IfPresent, IfPresent, h]

theorem Distinct.of_perm (h : Distinct entries) (hp : entries.Perm entries') : Distinct entries' :=
  (hp.pairwise_iff fun hne => Ne.symm hne).mp h

theorem entriesReadable_iff : Toml.entriesReadable entries = true ↔
    ∀ entry ∈ entries, entry.2.isReadable = true := by
  induction entries with
  | nil => simp [Toml.entriesReadable]
  | cons entry rest ih =>
    rw [Toml.entriesReadable, Bool.and_eq_true, ih, List.forall_mem_cons]

theorem numberedBeyond_of_isReadable (h : (Toml.Value.table entries).isReadable = true)
    (keys : List String) : NumberedBeyond keys entries :=
  fun entry he _ => entriesReadable_iff.mp h entry he

end

section
variable {α : Type} {entries entries' : Toml.Table} {key : String}
  {Holds : Toml.Value → α → Prop} {default a b : α}

theorem Entry.unique (h : Entry entries key Holds default a)
    (h' : Entry entries key Holds default b) (hu : ∀ v, Holds v a → Holds v b → a = b) : a = b := by
  unfold Entry at h h'
  cases hf : Toml.find? entries key with
  | none =>
    rw [hf] at h h'
    exact Eq.trans h (Eq.symm h')
  | some v =>
    rw [hf] at h h'
    exact hu v h h'

theorem Entry.ifPresent {Kind : Toml.Value → Prop} (h : Entry entries key Holds default a)
    (hk : ∀ v, Holds v a → Kind v) : IfPresent entries key Kind := by
  intro v hf
  rw [Entry, hf] at h
  exact hk v h

theorem entry_congr (h : Toml.find? entries key = Toml.find? entries' key) :
    Entry entries key Holds default a ↔ Entry entries' key Holds default a := by
  rw [Entry, Entry, h]

end

-- ---------------------------------------------------------------------------
-- Single values
-- ---------------------------------------------------------------------------

def IsText (v : Toml.Value) : Prop := ∃ text, v = .string text

def IsSeconds (v : Toml.Value) : Prop :=
  ∃ n : Int, v = .integer n ∧ 0 ≤ n ∧ n ≤ 18446744073709551615

section
variable {v : Toml.Value}

theorem exists_textOf_iff : (∃ text, textOf v = .ok text) ↔ IsText v := by
  simp only [textOf_eq_ok_iff, HoldsText, IsText]

theorem exists_secondsOf_iff : (∃ seconds, secondsOf v = .ok seconds) ↔ IsSeconds v := by
  simp only [secondsOf_eq_ok_iff, HoldsSeconds]
  constructor
  · rintro ⟨seconds, rfl⟩
    have hlt := seconds.toNat_lt
    exact ⟨seconds.toNat, rfl, by omega, by omega⟩
  · rintro ⟨n, rfl, hlow, hhigh⟩
    have hlt : n.toNat < UInt64.size := (Int.toNat_lt hlow).mpr (Int.lt_add_one_of_le hhigh)
    exact ⟨UInt64.ofNat n.toNat, by rw [UInt64.toNat_ofNat_of_lt' hlt, Int.toNat_of_nonneg hlow]⟩

theorem exists_passOver_iff {α : Type} {unchanged : α} :
    (∃ result, passOver unchanged v = .ok result) ↔ v.isReadable = true := by
  unfold passOver
  split <;> simp_all

theorem exists_map_iff {ε α β : Type} {action : Except ε α} {f : α → β} :
    (∃ b, action.map f = .ok b) ↔ ∃ a, action = .ok a := by
  cases action <;> simp [Except.map]

theorem HoldsText.unique {a b : String} (ha : HoldsText v a) (hb : HoldsText v b) : a = b :=
  Toml.Value.string.inj (Eq.trans (Eq.symm ha) hb)

theorem HoldsSeconds.unique {a b : UInt64} (ha : HoldsSeconds v a) (hb : HoldsSeconds v b) :
    a = b :=
  UInt64.toNat_inj.mp (Int.ofNat.inj (Toml.Value.integer.inj (Eq.trans (Eq.symm ha) hb)))

end

-- ---------------------------------------------------------------------------
-- The client's settings
-- ---------------------------------------------------------------------------

namespace ClientSettings

variable {entries : Toml.Table} {key : String} {v : Toml.Value}

structure Fits (key : String) (v : Toml.Value) : Prop where
  backend : key = "backend" → IsText v
  xcrunPath : key = "xcrun_path" → IsText v
  timeoutSeconds : key = "command_timeout_secs" → IsSeconds v
  other : key ∉ keys → v.isReadable = true

theorem exists_set_iff (s : ClientSettings) (key : String) (v : Toml.Value) :
    (∃ s', s.set key v = .ok s') ↔ Fits key v := by
  unfold set
  split
  · rw [exists_map_iff, exists_textOf_iff]
    exact ⟨fun h => ⟨fun _ => h, by simp, by simp, by simp [keys]⟩, fun h => h.backend rfl⟩
  · rw [exists_map_iff, exists_textOf_iff]
    exact ⟨fun h => ⟨by simp, fun _ => h, by simp, by simp [keys]⟩, fun h => h.xcrunPath rfl⟩
  · rw [exists_map_iff, exists_secondsOf_iff]
    exact ⟨fun h => ⟨by simp, by simp, fun _ => h, by simp [keys]⟩, fun h => h.timeoutSeconds rfl⟩
  · rename_i hb hx ht
    rw [exists_passOver_iff]
    refine ⟨fun h => ⟨fun hk => (hb hk).elim, fun hk => (hx hk).elim, fun hk => (ht hk).elim,
      fun _ => h⟩, fun h => h.other fun hk => ?_⟩
    simp only [keys, List.mem_cons, List.not_mem_nil, or_false] at hk
    exact hk.elim hb fun hk => hk.elim hx ht

structure Typed (entries : Toml.Table) : Prop where
  backend : IfPresent entries "backend" IsText
  xcrunPath : IfPresent entries "xcrun_path" IsText
  timeoutSeconds : IfPresent entries "command_timeout_secs" IsSeconds

theorem forall_fits_iff (hd : Distinct entries) :
    (∀ entry ∈ entries, Fits entry.1 entry.2) ↔ Typed entries ∧ NumberedBeyond keys entries := by
  constructor
  · intro h
    exact ⟨⟨(ifPresent_iff hd).mpr fun entry he => (h entry he).backend,
      (ifPresent_iff hd).mpr fun entry he => (h entry he).xcrunPath,
      (ifPresent_iff hd).mpr fun entry he => (h entry he).timeoutSeconds⟩,
      fun entry he => (h entry he).other⟩
  · rintro ⟨ht, hn⟩ entry he
    exact
      { backend := (ifPresent_iff hd).mp ht.backend entry he
        xcrunPath := (ifPresent_iff hd).mp ht.xcrunPath entry he
        timeoutSeconds := (ifPresent_iff hd).mp ht.timeoutSeconds entry he
        other := hn entry he }

theorem exists_setAll_iff (hd : Distinct entries) (s : ClientSettings) :
    (∃ s', s.setAll entries = .ok s') ↔ Typed entries ∧ NumberedBeyond keys entries := by
  rw [setAll_eq_foldlM, exists_foldlM_iff exists_set_iff, forall_fits_iff hd]

/-- What the client's settings may be: a table, an array of the same values in order, as far
as it goes, or a date or time, which says nothing. -/
inductive TypedValue : Toml.Value → Prop
  | table {entries : Toml.Table} (h : Typed entries) : TypedValue (.table entries)
  | array {items : List Toml.Value} (hb : ∀ v, items[0]? = some v → IsText v)
      (hx : ∀ v, items[1]? = some v → IsText v) (ht : ∀ v, items[2]? = some v → IsSeconds v) :
      TypedValue (.array items)
  | moment : TypedValue .moment

theorem find?_zip (items : List Toml.Value) :
    Toml.find? (keys.zip items) "backend" = items[0]? ∧
      Toml.find? (keys.zip items) "xcrun_path" = items[1]? ∧
      Toml.find? (keys.zip items) "command_timeout_secs" = items[2]? := by
  rcases items with _ | ⟨a, _ | ⟨b, _ | ⟨c, rest⟩⟩⟩ <;> exact ⟨rfl, rfl, rfl⟩

theorem numberedBeyond_zip (items : List Toml.Value) : NumberedBeyond keys (keys.zip items) :=
  fun _ he hk => absurd (List.of_mem_zip he).1 hk

theorem typed_nil : Typed [] :=
  ⟨fun _ hf => (nomatch hf), fun _ hf => (nomatch hf), fun _ hf => (nomatch hf)⟩

def HasFields : Toml.Value → Prop
  | .table _ | .array _ | .moment => True
  | _ => False

theorem typedValue_iff : TypedValue v ↔ HasFields v ∧ Typed (entriesOf v) := by
  constructor
  · intro h
    refine ⟨by cases h <;> exact trivial, ?_⟩
    cases h with
    | table h => exact h
    | @array items hb hx ht =>
      obtain ⟨hb', hx', ht'⟩ := find?_zip items
      exact ⟨fun v hf => hb v (hb' ▸ hf), fun v hf => hx v (hx' ▸ hf), fun v hf => ht v (ht' ▸ hf)⟩
    | moment => exact typed_nil
  · rintro ⟨hfields, h⟩
    cases v with
    | table entries => exact .table h
    | array items =>
      obtain ⟨hb, hx, ht⟩ := find?_zip items
      exact .array (fun v hi => h.backend v (hb ▸ hi)) (fun v hi => h.xcrunPath v (hx ▸ hi))
        fun v hi => h.timeoutSeconds v (ht ▸ hi)
    | moment => exact .moment
    | _ => exact hfields.elim

theorem ofValue_of_hasFields (h : HasFields v) : ofValue v = setAll {} (entriesOf v) := by
  cases v <;> first | rfl | exact h.elim

theorem hasFields_of_ofValue {s : ClientSettings} (h : ofValue v = .ok s) : HasFields v := by
  cases v <;> first | exact trivial | cases h

theorem exists_ofValue_iff (hd : Distinct (entriesOf v)) :
    (∃ s, ofValue v = .ok s) ↔ TypedValue v ∧ NumberedBeyond keys (entriesOf v) := by
  rw [typedValue_iff, and_assoc, ← exists_setAll_iff hd {}]
  constructor
  · rintro ⟨s, h⟩
    have hfields := hasFields_of_ofValue h
    exact ⟨hfields, s, ofValue_of_hasFields hfields ▸ h⟩
  · rintro ⟨hfields, s, h⟩
    exact ⟨s, ofValue_of_hasFields hfields ▸ h⟩

theorem Documented.typed {s : ClientSettings} (h : Documented entries s) : Typed entries where
  backend := h.backend.ifPresent fun _ hv => ⟨_, hv⟩
  xcrunPath := h.xcrunPath.ifPresent fun _ hv => ⟨_, hv⟩
  timeoutSeconds := h.timeoutSeconds.ifPresent fun _ hv =>
    exists_secondsOf_iff.mp ⟨_, secondsOf_eq_ok_iff.mpr hv⟩

theorem Documented.unique {s s' : ClientSettings} (h : Documented entries s)
    (h' : Documented entries s') : s = s' := by
  have hb := h.backend.unique h'.backend fun _ => HoldsText.unique
  have hx := h.xcrunPath.unique h'.xcrunPath fun _ => HoldsText.unique
  have ht := h.timeoutSeconds.unique h'.timeoutSeconds fun _ => HoldsSeconds.unique
  cases s
  cases s'
  simp only at hb hx ht
  rw [hb, hx, ht]

end ClientSettings

-- ---------------------------------------------------------------------------
-- All settings
-- ---------------------------------------------------------------------------

namespace Settings

variable {entries : Toml.Table} {path : String} {s s' : Settings}

def keys : List String := ["default_udid", "log_level", "client"]

structure Fits (key : String) (v : Toml.Value) : Prop where
  defaultUdid : key = "default_udid" → IsText v
  logLevel : key = "log_level" → IsText v
  client : key = "client" → ∃ c, ClientSettings.ofValue v = .ok c
  other : key ∉ keys → v.isReadable = true

theorem exists_set_iff (s : Settings) (key : String) (v : Toml.Value) :
    (∃ s', s.set key v = .ok s') ↔ Fits key v := by
  unfold set
  split
  · rw [exists_map_iff, exists_textOf_iff]
    exact ⟨fun h => ⟨fun _ => h, by simp, by simp, by simp [keys]⟩, fun h => h.defaultUdid rfl⟩
  · rw [exists_map_iff, exists_textOf_iff]
    exact ⟨fun h => ⟨by simp, fun _ => h, by simp, by simp [keys]⟩, fun h => h.logLevel rfl⟩
  · rw [exists_map_iff]
    exact ⟨fun h => ⟨by simp, by simp, fun _ => h, by simp [keys]⟩, fun h => h.client rfl⟩
  · rename_i hd hl hc
    rw [exists_passOver_iff]
    refine ⟨fun h => ⟨fun hk => (hd hk).elim, fun hk => (hl hk).elim, fun hk => (hc hk).elim,
      fun _ => h⟩, fun h => h.other fun hk => ?_⟩
    simp only [keys, List.mem_cons, List.not_mem_nil, or_false] at hk
    exact hk.elim hd fun hk => hk.elim hl hc

structure Typed (entries : Toml.Table) : Prop where
  defaultUdid : IfPresent entries "default_udid" IsText
  logLevel : IfPresent entries "log_level" IsText
  client : IfPresent entries "client" ClientSettings.TypedValue

structure Numbered (entries : Toml.Table) : Prop where
  top : NumberedBeyond keys entries
  client : NumberedBeyond ClientSettings.keys (clientEntries entries)

theorem ifPresent_ofValue_iff (hd : Distinct (clientEntries entries)) :
    IfPresent entries "client" (fun v => ∃ c, ClientSettings.ofValue v = .ok c) ↔
      IfPresent entries "client" ClientSettings.TypedValue ∧
        NumberedBeyond ClientSettings.keys (clientEntries entries) := by
  unfold IfPresent
  cases hf : Toml.find? entries "client" with
  | none =>
    rw [clientEntries_eq_nil hf]
    exact ⟨fun _ => ⟨fun _ hv => (nomatch hv), fun _ he => (nomatch he)⟩,
      fun _ _ hv => (nomatch hv)⟩
  | some v =>
    rw [clientEntries_eq hf] at hd ⊢
    simp only [Option.some.injEq, forall_eq']
    exact ClientSettings.exists_ofValue_iff hd

theorem forall_fits_iff (hu : UniqueKeys entries) :
    (∀ entry ∈ entries, Fits entry.1 entry.2) ↔ Typed entries ∧ Numbered entries := by
  have hclient := ifPresent_ofValue_iff hu.client
  rw [ifPresent_iff hu.top] at hclient
  constructor
  · intro h
    obtain ⟨htyped, hnumbered⟩ := hclient.mp fun entry he => (h entry he).client
    exact ⟨⟨(ifPresent_iff hu.top).mpr fun entry he => (h entry he).defaultUdid,
      (ifPresent_iff hu.top).mpr fun entry he => (h entry he).logLevel, htyped⟩,
      fun entry he => (h entry he).other, hnumbered⟩
  · rintro ⟨ht, hn⟩ entry he
    exact
      { defaultUdid := (ifPresent_iff hu.top).mp ht.defaultUdid entry he
        logLevel := (ifPresent_iff hu.top).mp ht.logLevel entry he
        client := hclient.mpr ⟨ht.client, hn.client⟩ entry he
        other := hn.top entry he }

theorem exists_ofTable_iff (hu : UniqueKeys entries) (path : String) :
    (∃ s, ofTable path entries = .ok s) ↔ Typed entries ∧ Numbered entries := by
  rw [ofTable, setAll_eq_foldlM, exists_foldlM_iff exists_set_iff, forall_fits_iff hu]

theorem Documented.typed (h : Documented entries s)
    (hf : IfPresent entries "client" ClientSettings.HasFields) : Typed entries where
  defaultUdid := h.defaultUdid.ifPresent fun _ ⟨text, hv, _⟩ => ⟨text, hv⟩
  logLevel := h.logLevel.ifPresent fun _ hv => ⟨_, hv⟩
  client v hv :=
    ClientSettings.typedValue_iff.mpr ⟨hf v hv, clientEntries_eq hv ▸ h.client.typed⟩

theorem Documented.unique (h : Documented entries s) (h' : Documented entries s')
    (hp : s.configPath = s'.configPath) : s = s' := by
  have hd : s.defaultUdid = s'.defaultUdid := by
    refine h.defaultUdid.unique h'.defaultUdid ?_
    rintro v ⟨text, ht, he⟩ ⟨text', ht', he'⟩
    rw [he, he', ht.unique ht']
  have hl := h.logLevel.unique h'.logLevel fun _ => HoldsText.unique
  have hc := h.client.unique h'.client
  cases s
  cases s'
  simp only at hp hd hl hc
  rw [hp, hd, hl, hc]

theorem ofTable_eq_ok_iff (hu : UniqueKeys entries) :
    ofTable path entries = .ok s ↔
      Typed entries ∧ Numbered entries ∧ s.configPath = path ∧ Documented entries s := by
  rw [← and_assoc, ← exists_ofTable_iff hu path]
  constructor
  · intro h
    exact ⟨⟨s, h⟩, documented_of_ofTable hu h⟩
  · rintro ⟨⟨s', h⟩, hp, hd⟩
    obtain ⟨hp', hd'⟩ := documented_of_ofTable hu h
    rw [hd.unique hd' (hp.trans hp'.symm), h]

end Settings

end SimApprove

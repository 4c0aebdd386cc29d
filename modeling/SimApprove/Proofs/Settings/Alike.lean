import SimApprove.Proofs.Settings.Typing

/-!
# Documents that say the same

`Alike` compares two documents by what they have under the keys that are known, and
`Reordered` has the same entries in another order. Neither makes a difference to the
settings, `Alike.ofTable_iff`. `loadFrom_typed` says of a file, present or not, when it is
taken, what is taken from it, and what this does not depend on.
-/

namespace SimApprove

namespace ClientSettings

variable {entries entries' : Toml.Table}

-- ---------------------------------------------------------------------------
-- The same client
-- ---------------------------------------------------------------------------

def SameFields (entries entries' : Toml.Table) : Prop :=
  ∀ key ∈ keys, Toml.find? entries key = Toml.find? entries' key

theorem SameFields.symm (h : SameFields entries entries') : SameFields entries' entries :=
  fun key hk => (h key hk).symm

theorem SameFields.typed (h : SameFields entries entries') (ht : Typed entries) :
    Typed entries' where
  backend := (ifPresent_congr (h "backend" (by decide))).mp ht.backend
  xcrunPath := (ifPresent_congr (h "xcrun_path" (by decide))).mp ht.xcrunPath
  timeoutSeconds := (ifPresent_congr (h "command_timeout_secs" (by decide))).mp ht.timeoutSeconds

theorem SameFields.documented (h : SameFields entries entries') {s : ClientSettings}
    (hd : Documented entries s) : Documented entries' s where
  backend := (entry_congr (h "backend" (by decide))).mp hd.backend
  xcrunPath := (entry_congr (h "xcrun_path" (by decide))).mp hd.xcrunPath
  timeoutSeconds := (entry_congr (h "command_timeout_secs" (by decide))).mp hd.timeoutSeconds

inductive SameClient : Option Toml.Value → Option Toml.Value → Prop
  | same (v? : Option Toml.Value) : SameClient v? v?
  | tables {inner inner' : Toml.Table} (h : SameFields inner inner') :
      SameClient (some (.table inner)) (some (.table inner'))
  | array {items : List Toml.Value} {inner : Toml.Table}
      (hb : Toml.find? inner "backend" = items[0]?)
      (hx : Toml.find? inner "xcrun_path" = items[1]?)
      (ht : Toml.find? inner "command_timeout_secs" = items[2]?) :
      SameClient (some (.array items)) (some (.table inner))
  | empty {inner : Toml.Table} (h : ∀ key ∈ keys, Toml.find? inner key = none) :
      SameClient none (some (.table inner))
  | moment : SameClient none (some .moment)

def entriesAt (v? : Option Toml.Value) : Toml.Table := (v?.map entriesOf).getD []

variable {v? v?' : Option Toml.Value}

theorem SameClient.eq_or_sameFields (h : SameClient v? v?') : v? = v?' ∨
    (∀ v, v? = some v → HasFields v) ∧ (∀ v, v?' = some v → HasFields v) ∧
      SameFields (entriesAt v?) (entriesAt v?') := by
  cases h with
  | same => exact .inl rfl
  | tables h => exact .inr ⟨by simp [HasFields], by simp [HasFields], h⟩
  | @array items inner hb hx ht =>
    refine .inr ⟨by simp [HasFields], by simp [HasFields], fun key hk => ?_⟩
    obtain ⟨hb', hx', ht'⟩ := find?_zip items
    simp only [keys, List.mem_cons, List.not_mem_nil, or_false] at hk
    rcases hk with rfl | rfl | rfl
    · exact hb'.trans hb.symm
    · exact hx'.trans hx.symm
    · exact ht'.trans ht.symm
  | empty h => exact .inr ⟨by simp, by simp [HasFields], fun key hk => (h key hk).symm⟩
  | moment => exact .inr ⟨by simp, by simp [HasFields], fun _ _ => rfl⟩

theorem forall_typedValue_iff (h : ∀ v, v? = some v → HasFields v) :
    (∀ v, v? = some v → TypedValue v) ↔ Typed (entriesAt v?) := by
  cases v? with
  | none => exact ⟨fun _ => typed_nil, fun _ _ hv => (nomatch hv)⟩
  | some v =>
    constructor
    · intro ht
      exact (typedValue_iff.mp (ht v rfl)).2
    · rintro ht _ ⟨⟩
      exact typedValue_iff.mpr ⟨h v rfl, ht⟩

theorem SameClient.typedValue_iff (h : SameClient v? v?') :
    (∀ v, v? = some v → TypedValue v) ↔ ∀ v, v?' = some v → TypedValue v := by
  rcases h.eq_or_sameFields with rfl | ⟨hf, hf', h⟩
  · exact Iff.rfl
  · rw [forall_typedValue_iff hf, forall_typedValue_iff hf']
    exact ⟨h.typed, h.symm.typed⟩

theorem SameClient.documented_iff (h : SameClient v? v?') {s : ClientSettings} :
    Documented (entriesAt v?) s ↔ Documented (entriesAt v?') s := by
  rcases h.eq_or_sameFields with rfl | ⟨-, -, h⟩
  · exact Iff.rfl
  · exact ⟨h.documented, h.symm.documented⟩

end ClientSettings

namespace Settings

variable {entries entries' : Toml.Table} {path : String} {s : Settings}

-- ---------------------------------------------------------------------------
-- Documents that say the same
-- ---------------------------------------------------------------------------

/-- The same under the known keys; the others are not looked at. -/
structure Alike (entries entries' : Toml.Table) : Prop where
  defaultUdid : Toml.find? entries "default_udid" = Toml.find? entries' "default_udid"
  logLevel : Toml.find? entries "log_level" = Toml.find? entries' "log_level"
  client : ClientSettings.SameClient (Toml.find? entries "client") (Toml.find? entries' "client")

theorem Alike.typed_iff (h : Alike entries entries') : Typed entries ↔ Typed entries' := by
  have hc := h.client.typedValue_iff
  constructor
  · intro ht
    exact ⟨(ifPresent_congr h.defaultUdid).mp ht.defaultUdid,
      (ifPresent_congr h.logLevel).mp ht.logLevel, hc.mp ht.client⟩
  · intro ht
    exact ⟨(ifPresent_congr h.defaultUdid).mpr ht.defaultUdid,
      (ifPresent_congr h.logLevel).mpr ht.logLevel, hc.mpr ht.client⟩

theorem Alike.documented_iff (h : Alike entries entries') :
    Documented entries s ↔ Documented entries' s := by
  have hc : ClientSettings.Documented (clientEntries entries) s.client ↔
      ClientSettings.Documented (clientEntries entries') s.client := h.client.documented_iff
  constructor
  · intro hd
    exact ⟨(entry_congr h.defaultUdid).mp hd.defaultUdid, (entry_congr h.logLevel).mp hd.logLevel,
      hc.mp hd.client⟩
  · intro hd
    exact ⟨(entry_congr h.defaultUdid).mpr hd.defaultUdid,
      (entry_congr h.logLevel).mpr hd.logLevel, hc.mpr hd.client⟩

theorem Alike.ofTable_iff (h : Alike entries entries') (hu : UniqueKeys entries)
    (hu' : UniqueKeys entries') (hn : Numbered entries ↔ Numbered entries') :
    ofTable path entries = .ok s ↔ ofTable path entries' = .ok s := by
  rw [ofTable_eq_ok_iff hu, ofTable_eq_ok_iff hu', h.typed_iff, h.documented_iff, hn]

theorem numbered_of_isReadable (h : (Toml.Value.table entries).isReadable = true) :
    Numbered entries := by
  refine ⟨numberedBeyond_of_isReadable h _, ?_⟩
  cases hf : Toml.find? entries "client" with
  | none =>
    rw [clientEntries_eq_nil hf]
    exact fun _ he => (nomatch he)
  | some v =>
    rw [clientEntries_eq hf]
    have hv : v.isReadable = true := entriesReadable_iff.mp h _ (Toml.mem_of_find? hf)
    cases v with
    | table inner => exact numberedBeyond_of_isReadable hv _
    | array items => exact ClientSettings.numberedBeyond_zip items
    | _ => exact fun _ he => (nomatch he)

/-- The same entries in another order, at the top or in the client's table. -/
inductive Reordered : Toml.Table → Toml.Table → Prop
  | top {entries entries' : Toml.Table} (h : entries.Perm entries') : Reordered entries entries'
  | client {inner inner' rest : Toml.Table} (h : inner.Perm inner') :
      Reordered (("client", .table inner) :: rest) (("client", .table inner') :: rest)
  | trans {first second third : Toml.Table} (h : Reordered first second)
      (h' : Reordered second third) : Reordered first third

theorem alike_of_find?_eq (h : ∀ key, Toml.find? entries key = Toml.find? entries' key) :
    Alike entries entries' := ⟨h _, h _, h _ ▸ .same _⟩

theorem numberedBeyond_perm {keys : List String} (h : entries.Perm entries') :
    NumberedBeyond keys entries ↔ NumberedBeyond keys entries' := by
  simp only [NumberedBeyond, h.mem_iff]

theorem numbered_cons_client {inner rest : Toml.Table} :
    Numbered (("client", .table inner) :: rest) ↔
      NumberedBeyond keys rest ∧ NumberedBeyond ClientSettings.keys inner := by
  have hkey : "client" ∈ keys := by decide
  constructor
  · intro h
    exact ⟨(List.forall_mem_cons.mp h.top).2, h.client⟩
  · rintro ⟨hrest, hinner⟩
    exact ⟨List.forall_mem_cons.mpr ⟨fun hk => absurd hkey hk, hrest⟩, hinner⟩

theorem Reordered.ofTable_iff (h : Reordered entries entries') (hu : UniqueKeys entries) :
    UniqueKeys entries' ∧ ∀ s, ofTable path entries = .ok s ↔ ofTable path entries' = .ok s := by
  induction h with
  | @top entries entries' h =>
    have hf := Toml.find?_of_perm h hu.top.nodup
    have hc : clientEntries entries = clientEntries entries' := by
      rw [clientEntries, clientEntries, hf]
    have hu' : UniqueKeys entries' := ⟨hu.top.of_perm h, hc ▸ hu.client⟩
    have hn : Numbered entries ↔ Numbered entries' :=
      ⟨fun hn => ⟨(numberedBeyond_perm h).mp hn.top, hc ▸ hn.client⟩,
        fun hn => ⟨(numberedBeyond_perm h).mpr hn.top, hc ▸ hn.client⟩⟩
    exact ⟨hu', fun s => (alike_of_find?_eq hf).ofTable_iff hu hu' hn⟩
  | @client inner inner' rest h =>
    have hinner : Distinct inner := hu.client
    have hu' : UniqueKeys (("client", .table inner') :: rest) :=
      ⟨List.pairwise_cons.mpr (List.pairwise_cons.mp hu.top), hinner.of_perm h⟩
    have ha : Alike (("client", .table inner) :: rest) (("client", .table inner') :: rest) :=
      ⟨rfl, rfl, .tables fun key _ => Toml.find?_of_perm h hinner.nodup key⟩
    refine ⟨hu', fun s => ha.ofTable_iff hu hu' ?_⟩
    rw [numbered_cons_client, numbered_cons_client, numberedBeyond_perm h]
  | trans _ _ ih ih' =>
    obtain ⟨hu', h⟩ := ih hu
    obtain ⟨hu'', h'⟩ := ih' hu'
    exact ⟨hu'', fun s => (h s).trans (h' s)⟩

-- ---------------------------------------------------------------------------
-- Files
-- ---------------------------------------------------------------------------

variable {files : FileTree}

theorem Held.uniqueKeys (h : Held files path entries) : UniqueKeys entries := by
  cases h with
  | absent => exact ⟨List.Pairwise.nil, List.Pairwise.nil⟩
  | document _ _ hp => exact uniqueKeys_of_ordered (Toml.ordered_of_parse hp)

theorem loadFrom_of_held (h : Held files path entries) :
    loadFrom files path =
      (ofTable path entries).mapError fun misfit => refusal path misfit.message := by
  cases h with
  | absent h =>
    rw [loadFrom, if_neg (by simp [h])]
    rfl
  | @document text _ h hr hp =>
    have ht : Text.Utf8.decode? text.toUTF8.toList = some text :=
      Text.Utf8.decode?_eq_some_iff.mpr rfl
    rw [loadFrom, if_pos h, hr]
    simp only [ht, ofDocument, hp]
    cases ofTable path entries <;> rfl

theorem loadFrom_eq_ok_iff (h : Held files path entries) :
    loadFrom files path = .ok s ↔ ofTable path entries = .ok s := by
  rw [loadFrom_of_held h]
  cases ofTable path entries <;> simp [Except.mapError]

/-- When a file is taken and what is taken from it. Neither an unknown key nor the order of
the keys makes a difference, and a file without known keys is as good as none. -/
theorem loadFrom_typed (h : Held files path entries) :
    ((∃ s, loadFrom files path = .ok s) ↔ Typed entries ∧ Numbered entries) ∧
    ((Toml.Value.table entries).isReadable = true → Numbered entries) ∧
    (∀ s, loadFrom files path = .ok s → s.configPath = path ∧ Documented entries s) ∧
    (∀ e, loadFrom files path = .error e →
      ∃ misfit : Misfit, e = refusal path misfit.message) ∧
    (∀ files' entries', Held files' path entries' → Alike entries entries' →
      Numbered entries → Numbered entries' →
      ∀ s, loadFrom files path = .ok s ↔ loadFrom files' path = .ok s) ∧
    (∀ entries', Reordered entries entries' →
      (∀ s, loadFrom files path = .ok s ↔ ofTable path entries' = .ok s) ∧
      ∀ files', Held files' path entries' →
        ∀ s, loadFrom files path = .ok s ↔ loadFrom files' path = .ok s) ∧
    (Alike [] entries → Numbered entries → loadFrom files path = .ok { configPath := path } ∧
      ∀ files', files'.has path = false → loadFrom files' path = .ok { configPath := path }) := by
  refine ⟨?_, numbered_of_isReadable, fun s hs => ?_, fun e he => ?_, ?_, ?_, ?_⟩
  · simp only [loadFrom_eq_ok_iff h, exists_ofTable_iff h.uniqueKeys]
  · exact documented_of_ofTable h.uniqueKeys ((loadFrom_eq_ok_iff h).mp hs)
  · rw [loadFrom_of_held h] at he
    cases ho : ofTable path entries with
    | ok s =>
      rw [ho] at he
      cases he
    | error misfit =>
      rw [ho] at he
      cases he
      exact ⟨misfit, rfl⟩
  · intro files' entries' h' ha hn hn' s
    rw [loadFrom_eq_ok_iff h, loadFrom_eq_ok_iff h']
    exact ha.ofTable_iff h.uniqueKeys h'.uniqueKeys (iff_of_true hn hn')
  · intro entries' hr
    have htable : ∀ s, ofTable path entries = .ok s ↔ ofTable path entries' = .ok s :=
      (hr.ofTable_iff h.uniqueKeys).2
    refine ⟨fun s => ?_, fun files' h' s => ?_⟩
    · rw [loadFrom_eq_ok_iff h]
      exact htable s
    · rw [loadFrom_eq_ok_iff h, loadFrom_eq_ok_iff h']
      exact htable s
  · intro ha hn
    have hnil : UniqueKeys [] := ⟨List.Pairwise.nil, List.Pairwise.nil⟩
    have hnumbered : Numbered [] := ⟨fun _ he => (nomatch he), fun _ he => (nomatch he)⟩
    refine ⟨?_, fun files' hf => (loadFrom_eq_ok_iff (.absent hf)).mpr rfl⟩
    rw [loadFrom_eq_ok_iff h, ← ha.ofTable_iff hnil h.uniqueKeys (iff_of_true hnumbered hn)]
    rfl

/-- A document whose known keys have the right types, one in which a known key does not, and
two without known keys. -/
theorem loadFrom_typed_of_documents :
    let right := "log_level = \"info\"\nextra = true\n[client]\nbackend = \"none\"\n"
    let wrong := "extra = true\n[client]\ncommand_timeout_secs = -1\n"
    let files (document : String) : FileTree :=
      ⟨"/s", [(["config.toml"], .document document.toUTF8.toList)]⟩
    let taken : Settings :=
      { configPath := "config.toml", logLevel := "info", client := { backend := "none" } }
    (∃ entries, Held (files right) "config.toml" entries ∧
      entries.map Prod.fst = ["client", "extra", "log_level"] ∧ Typed entries ∧
      loadFrom (files right) "config.toml" = .ok taken ∧ Documented entries taken) ∧
    (∃ entries, Held (files wrong) "config.toml" entries ∧
      entries.map Prod.fst = ["client", "extra"] ∧ ¬ Typed entries ∧
      ∃ misfit : Misfit, loadFrom (files wrong) "config.toml" =
        .error (refusal "config.toml" misfit.message)) ∧
    ∀ document ∈ ["", "[client]\n"],
      loadFrom (files document) "config.toml" = .ok { configPath := "config.toml" } := by
  intro right wrong files taken
  have hheld : ∀ document ∈ [right, wrong, "", "[client]\n"], ∀ entries,
      Toml.parse document = .ok entries → Held (files document) "config.toml" entries := by
    have hhas : ∀ document ∈ [right, wrong, "", "[client]\n"],
        (files document).has "config.toml" = true := by decide +kernel
    have hread : ∀ document ∈ [right, wrong, "", "[client]\n"],
        (files document).read "config.toml" = .ok document.toUTF8.toList := by decide +kernel
    exact fun document hd entries => .document (hhas document hd) (hread document hd)
  refine ⟨?_, ?_, List.forall_mem_cons.mpr ⟨?_, List.forall_mem_singleton.mpr ?_⟩⟩
  · have hkeys : (Toml.parse right).map (·.map Prod.fst) =
        .ok ["client", "extra", "log_level"] := by decide +kernel
    have hload : loadFrom (files right) "config.toml" = .ok taken := by decide +kernel
    obtain ⟨entries, hp, hk⟩ := map_eq_ok_iff.mp hkeys
    have h := hheld _ (by decide) _ hp
    obtain ⟨hiff, -, hwhat, -⟩ := loadFrom_typed h
    exact ⟨entries, h, hk, (hiff.mp ⟨taken, hload⟩).1, hload, (hwhat taken hload).2⟩
  · have hkeys : (Toml.parse wrong).map (fun entries =>
        (entries.map Prod.fst, (Toml.Value.table entries).isReadable)) =
        .ok (["client", "extra"], true) := by decide +kernel
    have hload : (loadFrom (files wrong) "config.toml").toOption = none := by decide +kernel
    obtain ⟨entries, hp, hk⟩ := map_eq_ok_iff.mp hkeys
    have h := hheld _ (by decide) _ hp
    obtain ⟨hiff, hn, -, hwhy, -⟩ := loadFrom_typed h
    cases he : loadFrom (files wrong) "config.toml" with
    | ok s =>
      rw [he] at hload
      cases hload
    | error e =>
      obtain ⟨misfit, rfl⟩ := hwhy e he
      refine ⟨entries, h, congrArg Prod.fst hk, fun ht => ?_, misfit, rfl⟩
      obtain ⟨s, hs⟩ := hiff.mpr ⟨ht, hn (congrArg Prod.snd hk)⟩
      rw [hs] at he
      cases he
  · obtain ⟨-, hn, -, -, -, -, hnothing⟩ := loadFrom_typed (hheld "" (by decide) [] rfl)
    exact (hnothing ⟨rfl, rfl, .same none⟩ (hn rfl)).1
  · obtain ⟨-, hn, -, -, -, -, hnothing⟩ :=
      loadFrom_typed (hheld "[client]\n" (by decide) [("client", .table [])] rfl)
    exact (hnothing ⟨rfl, rfl, .empty fun _ _ => rfl⟩ (hn rfl)).1

/-- A client that is there and is neither a table nor an array is taken if it is a date, and
a document without known keys is not if it has a number that is beyond all doubles. -/
theorem loadFrom_of_date_client :
    let dated := "client = 1979-05-27\n"
    let beyond := "x = 1e999\n"
    let files (document : String) : FileTree :=
      ⟨"/s", [(["config.toml"], .document document.toUTF8.toList)]⟩
    (∃ entries, Held (files dated) "config.toml" entries ∧
      ¬ (Toml.find? entries "client" = none ∨
        (∃ inner, Toml.find? entries "client" = some (.table inner)) ∨
        ∃ items, Toml.find? entries "client" = some (.array items)) ∧
      loadFrom (files dated) "config.toml" = .ok { configPath := "config.toml" }) ∧
    ∃ entries, Held (files beyond) "config.toml" entries ∧ entries.map Prod.fst = ["x"] ∧
      loadFrom (files beyond) "config.toml" =
        .error (refusal "config.toml" Misfit.unreadable.message) := by
  intro dated beyond files
  have hheld : ∀ document ∈ [dated, beyond], ∀ entries, Toml.parse document = .ok entries →
      Held (files document) "config.toml" entries := by
    have hhas : ∀ document ∈ [dated, beyond], (files document).has "config.toml" = true := by
      decide +kernel
    have hread : ∀ document ∈ [dated, beyond],
        (files document).read "config.toml" = .ok document.toUTF8.toList := by decide +kernel
    exact fun document hd entries hp => .document (hhas document hd) (hread document hd) hp
  constructor
  · have hdate : ((Toml.parse dated).map fun entries =>
        (Toml.find? entries "client").map Toml.Value.isScalar) = .ok (some true) := by
      decide +kernel
    obtain ⟨entries, hp, hclient⟩ := map_eq_ok_iff.mp hdate
    obtain ⟨v, hf, hscalar⟩ := Option.map_eq_some_iff.mp hclient
    refine ⟨entries, hheld _ (by decide) _ hp, ?_, by decide +kernel⟩
    rw [hf]
    rintro (h | ⟨_, h⟩ | ⟨_, h⟩)
    · cases h
    · cases h
      cases hscalar
    · cases h
      cases hscalar
  · have hkeys : (Toml.parse beyond).map (·.map Prod.fst) = .ok ["x"] := by decide +kernel
    obtain ⟨entries, hp, hk⟩ := map_eq_ok_iff.mp hkeys
    exact ⟨entries, hheld _ (by decide) _ hp, hk, by decide +kernel⟩

end Settings

end SimApprove

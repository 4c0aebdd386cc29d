import SimApprove.Proofs.Settings.Typing
import SimApprove.Proofs.Toml.Assembly

/-!
# Settings that are written and read back

A `Choice` gives some of the settings a value. `Choice.Writes` has the documents that say
so, in all layouts and spellings of `Toml.Layout` and `Toml.DocumentSpelling`, and
`loadFrom_written` says that each of them is read back, with the defaults for the rest.
-/

namespace SimApprove

-- ---------------------------------------------------------------------------
-- Numbers
-- ---------------------------------------------------------------------------

theorem integerInRange_toNat (n : UInt64) : Toml.integerInRange n.toNat = true := by
  have hbound : Text.widthBound 128 = 340282366920938463463374607431768211456 := by decide
  have hlt := n.toNat_lt
  simp only [Toml.integerInRange, Text.fitsUnsigned, hbound, Bool.or_eq_true, Bool.and_eq_true,
    decide_eq_true_eq]
  omega

-- ---------------------------------------------------------------------------
-- Choices
-- ---------------------------------------------------------------------------

structure Choice where
  defaultUdid : Option String
  logLevel : Option String
  backend : Option String
  xcrunPath : Option String
  timeoutSeconds : Option UInt64

namespace Choice

/-- The settings with these values, and the defaults for the others. -/
def settings (c : Choice) (path : String) : Settings where
  configPath := path
  defaultUdid := c.defaultUdid
  logLevel := c.logLevel.getD "warn"
  client :=
    { backend := c.backend.getD "simctl"
      xcrunPath := c.xcrunPath.getD "xcrun"
      timeoutSeconds := c.timeoutSeconds.getD 60 }

def entry (key : String) (datum? : Option Toml.Datum) : List (String × Toml.Datum) :=
  datum?.toList.map fun datum => (key, datum)

def top (c : Choice) : List (String × Toml.Datum) :=
  entry "default_udid" (c.defaultUdid.map .text) ++ entry "log_level" (c.logLevel.map .text)

def client (c : Choice) : List (String × Toml.Datum) :=
  entry "backend" (c.backend.map .text) ++ entry "xcrun_path" (c.xcrunPath.map .text) ++
    entry "command_timeout_secs" (c.timeoutSeconds.map fun n => .number n.toNat)

def Writes (c : Choice) (document : String) : Prop :=
  ∃ lines, Toml.Layout "client" c.top c.client lines ∧
    Toml.DocumentSpelling lines document.toList

-- ---------------------------------------------------------------------------
-- Entries
-- ---------------------------------------------------------------------------

variable {c : Choice} {key k : String} {datum : Toml.Datum} {datum? : Option Toml.Datum}

theorem mem_entry_iff : (k, datum) ∈ entry key datum? ↔ k = key ∧ datum? = some datum := by
  cases datum? <;> simp [entry, eq_comm]

theorem find?_entry (key k : String) (datum? : Option Toml.Datum) :
    Toml.find? (entry key datum?) k = if key = k then datum? else none := by
  cases datum? with
  | none => simp [entry, Toml.find?]
  | some datum => exact Toml.find?_cons key datum []

theorem sublist_keys_entry (key : String) (datum? : Option Toml.Datum) :
    ((entry key datum?).map Prod.fst).Sublist [key] := by
  cases datum? <;> simp [entry]

theorem fresh_of_sublist {entries : List (String × Toml.Datum)} {keys : List String}
    (h : (entries.map Prod.fst).Sublist keys) (hn : "client" ∉ keys) (hk : keys.Nodup)
    (hs : ∀ entry ∈ entries, entry.2.IsSound) : Toml.Fresh "client" entries [] where
  notMem hm := hn (h.subset hm)
  nodup := by
    rw [List.append_nil]
    exact h.nodup hk
  sound := hs

theorem keys_top (c : Choice) : (c.top.map Prod.fst).Sublist ["default_udid", "log_level"] := by
  rw [top, List.map_append]
  exact (sublist_keys_entry _ _).append (sublist_keys_entry _ _)

theorem keys_client (c : Choice) : (c.client.map Prod.fst).Sublist ClientSettings.keys := by
  rw [client, List.map_append, List.map_append]
  exact ((sublist_keys_entry _ _).append (sublist_keys_entry _ _)).append (sublist_keys_entry _ _)

theorem fresh_top (c : Choice) : Toml.Fresh "client" c.top [] := by
  refine fresh_of_sublist c.keys_top (by decide) (by decide) ?_
  rintro ⟨key, datum⟩ he
  simp only [top, List.mem_append, mem_entry_iff, Option.map_eq_some_iff] at he
  obtain ⟨-, s, -, rfl⟩ | ⟨-, s, -, rfl⟩ := he <;> exact trivial

theorem fresh_client (c : Choice) : Toml.Fresh "client" c.client [] := by
  refine fresh_of_sublist c.keys_client (by decide) (by decide) ?_
  rintro ⟨key, datum⟩ he
  simp only [client, List.mem_append, mem_entry_iff, Option.map_eq_some_iff] at he
  obtain (⟨-, s, -, rfl⟩ | ⟨-, s, -, rfl⟩) | ⟨-, n, -, rfl⟩ := he
  · exact trivial
  · exact trivial
  · exact integerInRange_toNat n

variable {t : Toml.Table}

theorem find?_top (c : Choice) :
    (Toml.find? c.top "default_udid").map Toml.Datum.value = c.defaultUdid.map .string ∧
      (Toml.find? c.top "log_level").map Toml.Datum.value = c.logLevel.map .string := by
  simp [top, Toml.find?_append, find?_entry, Function.comp_def, Toml.Datum.value]

theorem find?_client (c : Choice) :
    (Toml.find? c.client "backend").map Toml.Datum.value = c.backend.map .string ∧
      (Toml.find? c.client "xcrun_path").map Toml.Datum.value = c.xcrunPath.map .string ∧
      (Toml.find? c.client "command_timeout_secs").map Toml.Datum.value =
        c.timeoutSeconds.map fun n => .integer n.toNat := by
  simp [client, Toml.find?_append, find?_entry, Function.comp_def, Toml.Datum.value]

theorem find?_clientEntries (ht : Toml.Tells "client" c.top c.client t) (key : String) :
    Toml.find? (Settings.clientEntries t) key =
      (Toml.find? c.client key).map Toml.Datum.value := by
  obtain ⟨hnone, hempty⟩ | ⟨inner, hinner, hclient⟩ := ht.sub
  · rw [Settings.clientEntries, hnone, hempty]
    rfl
  · rw [Settings.clientEntries, hinner]
    exact hclient key

end Choice

-- ---------------------------------------------------------------------------
-- Every setting is as it was written
-- ---------------------------------------------------------------------------

theorem entry_getD {α : Type} {entries : Toml.Table} {key : String}
    {Holds : Toml.Value → α → Prop} {default : α} {given? : Option α} {g : α → Toml.Value}
    (hf : Toml.find? entries key = given?.map g) (hg : ∀ a, Holds (g a) a) :
    Entry entries key Holds default (given?.getD default) := by
  rw [Entry, hf]
  cases given? with
  | none => rfl
  | some a => exact hg a

namespace Choice

variable {c : Choice} {t : Toml.Table}

theorem documented_of_tells (ht : Toml.Tells "client" c.top c.client t) (path : String) :
    Settings.Documented t (c.settings path) := by
  obtain ⟨hudid, hlevel⟩ := c.find?_top
  obtain ⟨hbackend, hxcrun, htimeout⟩ := c.find?_client
  refine ⟨?_, entry_getD ((ht.top _ (by decide)).trans hlevel) fun _ => rfl, ?_, ?_, ?_⟩
  · rw [Entry, (ht.top _ (by decide)).trans hudid, settings]
    cases c.defaultUdid with
    | none => rfl
    | some text => exact ⟨text, rfl, rfl⟩
  · exact entry_getD ((find?_clientEntries ht _).trans hbackend) fun _ => rfl
  · exact entry_getD ((find?_clientEntries ht _).trans hxcrun) fun _ => rfl
  · exact entry_getD ((find?_clientEntries ht _).trans htimeout) fun _ => rfl

theorem hasFields_of_tells (ht : Toml.Tells "client" c.top c.client t) :
    IfPresent t "client" ClientSettings.HasFields := by
  intro v hf
  obtain ⟨hnone, -⟩ | ⟨inner, hinner, -⟩ := ht.sub
  · rw [hnone] at hf
    cases hf
  · rw [hinner] at hf
    cases hf
    exact trivial

theorem numberedBeyond_of_find? {entries : List (String × Toml.Datum)} {keys : List String}
    (hd : Distinct t) (hk : (entries.map Prod.fst).Sublist keys)
    (h : ∀ key ∉ keys, Toml.find? t key = (Toml.find? entries key).map Toml.Datum.value) :
    NumberedBeyond keys t := by
  intro entry he hn
  have hf := (Toml.find?_eq_some_iff hd.nodup).mpr he
  rw [h _ hn, Toml.find?_eq_none fun hm => hn (hk.subset hm)] at hf
  cases hf

theorem numbered_of_tells (ht : Toml.Tells "client" c.top c.client t)
    (hu : Settings.UniqueKeys t) : Settings.Numbered t where
  top := by
    refine numberedBeyond_of_find? hu.top (c.keys_top.trans (by decide)) fun key hk => ?_
    exact ht.top key fun he => hk (he ▸ by decide)
  client := numberedBeyond_of_find? hu.client c.keys_client fun key _ => find?_clientEntries ht key

theorem ofTable_of_tells (ht : Toml.Tells "client" c.top c.client t)
    (hu : Settings.UniqueKeys t) (path : String) :
    Settings.ofTable path t = .ok (c.settings path) := by
  have hd := documented_of_tells ht path
  exact (Settings.ofTable_eq_ok_iff hu).mpr
    ⟨hd.typed (hasFields_of_tells ht), numbered_of_tells ht hu, rfl, hd⟩

theorem ofDocument_of_writes {document : String} (h : c.Writes document) (path : String) :
    Settings.ofDocument path document = .ok (c.settings path) := by
  obtain ⟨lines, hlayout, hspelling⟩ := h
  obtain ⟨t, hparse, ht⟩ := Toml.parse_of_layout hlayout hspelling c.fresh_top c.fresh_client
  have hu := Settings.uniqueKeys_of_ordered (Toml.ordered_of_parse hparse)
  rw [Settings.ofDocument, hparse]
  simp only [ofTable_of_tells ht hu path]

theorem writes_render {c : Choice} {lines : List Toml.Line}
    (h : Toml.Layout "client" c.top c.client lines) :
    c.Writes (String.ofList (lines.flatMap Toml.Line.render)) := by
  have hbare : ∀ key ∈ "client" :: "default_udid" :: "log_level" :: ClientSettings.keys,
      Toml.IsBareKey key := by
    unfold Toml.IsBareKey
    decide
  have htop : ∀ entry ∈ c.top, Toml.IsBareKey entry.1 := fun entry he =>
    hbare _ (List.mem_cons_of_mem _ (List.mem_append_left _
      (c.keys_top.subset (List.mem_map_of_mem he))))
  have hclient : ∀ entry ∈ c.client, Toml.IsBareKey entry.1 := fun entry he =>
    hbare _ (List.mem_cons_of_mem _ (List.mem_append_right ["default_udid", "log_level"]
      (c.keys_client.subset (List.mem_map_of_mem he))))
  refine ⟨lines, h, ?_⟩
  rw [String.toList_ofList]
  exact .inl (Toml.linesSpelling_render (h.isBare (hbare _ List.mem_cons_self) htop hclient))

end Choice

/-- Settings that are written in a file, in whatever layout and spelling, are read back. -/
theorem Settings.loadFrom_written (c : Choice) :
    (∀ lines, Toml.Layout "client" c.top c.client lines →
      c.Writes (String.ofList (lines.flatMap Toml.Line.render))) ∧
    ∀ document path files, c.Writes document →
      FileTree.read files path = .ok document.toUTF8.toList →
      loadFrom files path = .ok (c.settings path) := by
  refine ⟨fun _ => Choice.writes_render, fun document path files hw hr => ?_⟩
  have hf : files.has path = true := by
    obtain ⟨here, hres, -⟩ := bind_eq_ok_iff.mp hr
    exact FileTree.has_eq_true_iff.mpr ⟨here, hres⟩
  rw [loadFrom, if_pos hf, hr]
  simp only [Text.Utf8.decode?_toUTF8]
  exact Choice.ofDocument_of_writes hw path

/-- Quotes within a text, the greatest time limit and dotted keys. -/
theorem Settings.loadFrom_written_dotted :
    let c : Choice := ⟨none, some "a \"b\"", some "dry-run", none, some 18446744073709551615⟩
    let document := "client.command_timeout_secs = 18446744073709551615\n" ++
      "log_level = \"a \\\"b\\\"\"\n" ++ "client.backend = \"dry-run\"\n"
    let files : FileTree := ⟨"/s", [(["config.toml"], .document document.toUTF8.toList)]⟩
    c.Writes document ∧ files.read "config.toml" = .ok document.toUTF8.toList ∧
      loadFrom files "config.toml" = .ok
        { configPath := "config.toml"
          logLevel := "a \"b\""
          client := { backend := "dry-run", timeoutSeconds := 18446744073709551615 } } := by
  intro c document files
  obtain ⟨hwrites, hload⟩ := Settings.loadFrom_written c
  let items : List Toml.Placed :=
    [.inr ("command_timeout_secs", .number 18446744073709551615),
      .inl ("log_level", .text "a \"b\""), .inr ("backend", .text "dry-run")]
  have hitems : items.Perm (c.top.map .inl ++ c.client.map .inr) :=
    (List.Perm.swap _ _ _).trans (.cons _ (.swap _ _ _))
  have hdocument : String.ofList ((items.map (Toml.Placed.line "client")).flatMap
      Toml.Line.render) = document := by decide +kernel
  have hw : c.Writes document := hdocument ▸ hwrites _ (.dotted hitems)
  have hr : files.read "config.toml" = .ok document.toUTF8.toList := by decide +kernel
  exact ⟨hw, hr, hload document "config.toml" files hw hr⟩
end SimApprove

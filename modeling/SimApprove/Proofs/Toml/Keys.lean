import SimApprove.Error
import SimApprove.Toml.Document
import Mathlib.Data.String.Basic

/-!
# The keys of a document

The tables of a document have their keys in order, and so each key once, at whatever
depth (`ordered_of_parse`). Every way to add to a draft keeps it so: an entry is put in
its place, and a table that exists is changed where it stands.
-/

namespace SimApprove.Toml

-- ---------------------------------------------------------------------------
-- Entries
-- ---------------------------------------------------------------------------

section
variable {α β : Type} {key : String} {value : α} {entries : List (String × α)}

def Sorted (entries : List (String × α)) : Prop := entries.Pairwise (·.1 < ·.1)

theorem sorted_nil : Sorted ([] : List (String × α)) := List.Pairwise.nil

theorem eq_or_mem_of_mem_insert {entry : String × α} (h : entry ∈ insert key value entries) :
    entry = (key, value) ∨ entry ∈ entries := by
  induction entries with
  | nil => simpa [insert] using h
  | cons head rest ih =>
    simp only [insert] at h
    split at h
    · rcases List.mem_cons.mp h with h | h
      · exact .inl h
      · exact .inr (List.mem_cons_of_mem _ h)
    split at h
    · exact List.mem_cons.mp h
    · rcases List.mem_cons.mp h with h | h
      · exact .inr (h ▸ List.mem_cons_self)
      · exact (ih h).imp_right (List.mem_cons_of_mem _)

theorem sorted_insert (h : Sorted entries) : Sorted (insert key value entries) := by
  induction entries with
  | nil => exact List.pairwise_singleton _ _
  | cons head rest ih =>
    obtain ⟨hhead, hrest⟩ := List.pairwise_cons.mp h
    simp only [insert]
    split
    · rename_i hk
      exact List.pairwise_cons.mpr ⟨fun entry he => hk ▸ hhead entry he, hrest⟩
    rename_i hne
    split
    · rename_i hlt
      refine List.pairwise_cons.mpr ⟨fun entry he => ?_, h⟩
      rcases List.mem_cons.mp he with rfl | he
      · exact hlt
      · exact lt_trans hlt (hhead entry he)
    · rename_i hle
      refine List.pairwise_cons.mpr ⟨fun entry he => ?_, ih hrest⟩
      rcases eq_or_mem_of_mem_insert he with rfl | he
      · exact lt_of_le_of_ne (not_lt.mp hle) (Ne.symm hne)
      · exact hhead entry he

theorem mem_of_find? (h : find? entries key = some value) : (key, value) ∈ entries := by
  obtain ⟨⟨k, v⟩, he, rfl⟩ := Option.map_eq_some_iff.mp h
  obtain rfl : k = key := by simpa using List.find?_some he
  exact List.mem_of_find?_eq_some he

theorem find?_cons (k : String) (v : α) (rest : List (String × α)) :
    find? ((k, v) :: rest) key = if k = key then some v else find? rest key := by
  unfold find?
  rw [List.find?_cons]
  by_cases hk : k = key <;> simp [hk]

theorem find?_insert (k : String) :
    find? (insert key value entries) k = if key = k then some value else find? entries k := by
  induction entries with
  | nil => rw [insert, find?_cons]
  | cons head rest ih =>
    obtain ⟨first, v⟩ := head
    simp only [insert]
    split
    · rename_i hk
      rw [find?_cons, find?_cons, hk]
      split <;> rfl
    rename_i hne
    split
    · rw [find?_cons]
    · rw [find?_cons, find?_cons, ih]
      by_cases hk : first = k
      · rw [if_pos hk, if_neg (hk ▸ hne), if_pos hk]
      · rw [if_neg hk, if_neg hk]

theorem find?_eq_none (h : key ∉ entries.map Prod.fst) : find? entries key = none := by
  cases hf : find? entries key with
  | none => rfl
  | some v => exact absurd (List.mem_map_of_mem (mem_of_find? hf)) h

theorem find?_eq_some_iff (h : (entries.map Prod.fst).Nodup) :
    find? entries key = some value ↔ (key, value) ∈ entries := by
  refine ⟨mem_of_find?, fun hm => ?_⟩
  induction entries with
  | nil => cases hm
  | cons head rest ih =>
    obtain ⟨hhead, hrest⟩ := List.nodup_cons.mp h
    obtain ⟨first, v⟩ := head
    rw [find?_cons]
    rcases List.mem_cons.mp hm with heq | hm
    · obtain ⟨rfl, rfl⟩ := Prod.mk.inj heq
      exact if_pos rfl
    · have hne : first ≠ key := by
        rintro rfl
        exact hhead (List.mem_map.mpr ⟨_, hm, rfl⟩)
      rw [if_neg hne]
      exact ih hrest hm

theorem find?_of_perm {others : List (String × α)} (hp : entries.Perm others)
    (hn : (entries.map Prod.fst).Nodup) (key : String) : find? entries key = find? others key := by
  refine Option.ext fun value => ?_
  have hn' : (others.map Prod.fst).Nodup := (hp.map Prod.fst).nodup_iff.mp hn
  rw [find?_eq_some_iff hn, find?_eq_some_iff hn', hp.mem_iff]

theorem find?_append (entries more : List (String × α)) (key : String) :
    find? (entries ++ more) key = (find? entries key).or (find? more key) := by
  simp only [find?, List.find?_append, Option.map_or]

theorem find?_map (f : α → β) (entries : List (String × α)) (key : String) :
    find? (entries.map fun entry => (entry.1, f entry.2)) key = (find? entries key).map f := by
  induction entries with
  | nil => rfl
  | cons head rest ih =>
    rw [List.map_cons, find?_cons, find?_cons, ih]
    split <;> rfl

end

-- ---------------------------------------------------------------------------
-- Values and drafts
-- ---------------------------------------------------------------------------

def Value.isScalar : Value → Bool
  | .array _ | .table _ => false
  | _ => true

inductive Value.Ordered : Value → Prop
  | scalar {v} (h : v.isScalar = true) : Ordered v
  | array {items} (h : ∀ v ∈ items, Ordered v) : Ordered (.array items)
  | table {entries} (hs : Sorted entries) (h : ∀ entry ∈ entries, Ordered entry.2) :
      Ordered (.table entries)

inductive Draft.Ordered : Draft → Prop
  | value {v} (h : v.Ordered) : Ordered (.value v)
  | table {origin entries} (hs : Sorted entries) (h : ∀ entry ∈ entries, Ordered entry.2) :
      Ordered (.table origin entries)
  | tables {closed last} (hc : ∀ entries ∈ closed, Sorted entries)
      (h : ∀ entries ∈ closed, ∀ entry ∈ entries, Ordered entry.2) (hs : Sorted last)
      (hl : ∀ entry ∈ last, Ordered entry.2) : Ordered (.tables closed last)

structure DraftTable.Ordered (table : DraftTable) : Prop where
  sorted : Sorted table
  each : ∀ entry ∈ table, entry.2.Ordered

theorem draftEntries_eq_map (entries : DraftTable) :
    draftEntries entries = entries.map fun entry => (entry.1, entry.2.toValue) := by
  induction entries with
  | nil => rfl
  | cons entry rest ih => simp only [draftEntries, ih, List.map_cons]

theorem find?_draftEntries (entries : DraftTable) (key : String) :
    find? (draftEntries entries) key = (find? entries key).map Draft.toValue := by
  rw [draftEntries_eq_map, find?_map]

theorem sorted_draftEntries {entries : DraftTable} (h : Sorted entries) :
    Sorted (draftEntries entries) := by
  rw [draftEntries_eq_map, Sorted, List.pairwise_map]
  exact h

mutual
theorem Draft.Ordered.toValue : {d : Draft} → d.Ordered → d.toValue.Ordered
  | .value _, .value h => h
  | .table _ _, .table hs h =>
    .table (sorted_draftEntries hs) (ordered_draftEntries h)
  | .tables _ last, .tables hc h hs hl => by
    have hlast : (Value.table (draftEntries last)).Ordered :=
      .table (sorted_draftEntries hs) (ordered_draftEntries hl)
    refine .array fun v hv => ?_
    rcases List.mem_append.mp hv with hv | hv
    · exact ordered_draftTables hc h v hv
    · exact List.mem_singleton.mp hv ▸ hlast
theorem ordered_draftEntries : {entries : DraftTable} → (∀ entry ∈ entries, entry.2.Ordered) →
    ∀ entry ∈ draftEntries entries, entry.2.Ordered
  | [], _ => fun _ he => nomatch he
  | (key, d) :: rest, h => fun entry he => by
    rcases List.mem_cons.mp he with rfl | he
    · exact (h (key, d) List.mem_cons_self).toValue
    · exact ordered_draftEntries (fun e hm => h e (List.mem_cons_of_mem _ hm)) entry he
theorem ordered_draftTables : {closed : List DraftTable} → (∀ entries ∈ closed, Sorted entries) →
    (∀ entries ∈ closed, ∀ entry ∈ entries, entry.2.Ordered) →
    ∀ v ∈ draftTables closed, v.Ordered
  | [], _, _ => fun _ hv => nomatch hv
  | entries :: rest, hc, h => fun v hv => by
    rcases List.mem_cons.mp hv with rfl | hv
    · exact .table (sorted_draftEntries (hc entries List.mem_cons_self))
        (ordered_draftEntries (h entries List.mem_cons_self))
    · exact ordered_draftTables (fun e hm => hc e (List.mem_cons_of_mem _ hm))
        (fun e hm => h e (List.mem_cons_of_mem _ hm)) v hv
end

-- ---------------------------------------------------------------------------
-- Changes of a draft
-- ---------------------------------------------------------------------------

variable {table table' : DraftTable} {body body' : Body} {key : String} {path : KeyPath}
  {d : Draft} {v : Value}

theorem DraftTable.ordered_nil : DraftTable.Ordered [] := ⟨sorted_nil, fun _ h => nomatch h⟩

theorem DraftTable.Ordered.insert (h : DraftTable.Ordered table) (hd : d.Ordered) :
    DraftTable.Ordered (insert key d table) where
  sorted := sorted_insert h.sorted
  each entry he := by
    rcases eq_or_mem_of_mem_insert he with rfl | he
    · exact hd
    · exact h.each entry he

theorem DraftTable.Ordered.of_find? (h : DraftTable.Ordered table)
    (hf : find? table key = some d) : d.Ordered :=
  h.each _ (mem_of_find? hf)

/-- A change that keeps the order of a table, whenever it succeeds. -/
def Keeps (change : Body → Except Fault Body) : Prop :=
  ∀ body body', change body = .ok body' → DraftTable.Ordered body.2 → DraftTable.Ordered body'.2

theorem keeps_descend {dotted : Bool} {change : Body → Except Fault Body} (hc : Keeps change)
    (path : KeyPath) : Keeps (descend dotted change path) := by
  induction path with
  | nil => exact hc
  | cons key path ih =>
    rintro ⟨origin, entries⟩ body' h ho
    simp only [descend] at h
    split at h
    · obtain ⟨⟨o, sub⟩, hsub, h⟩ := bind_eq_ok_iff.mp h
      cases h
      have hs := ih _ _ hsub DraftTable.ordered_nil
      exact ho.insert (.table hs.sorted hs.each)
    · rename_i hf
      split at h
      · cases h
      · obtain ⟨⟨o, sub⟩, hsub, h⟩ := bind_eq_ok_iff.mp h
        cases h
        cases ho.of_find? hf with
        | table hsorted heach =>
          have hs := ih _ _ hsub ⟨hsorted, heach⟩
          exact ho.insert (.table hs.sorted hs.each)
    · rename_i hf
      obtain ⟨⟨o, last⟩, hlast, h⟩ := bind_eq_ok_iff.mp h
      cases h
      cases ho.of_find? hf with
      | tables hclosed hall hsorted heach =>
        have hs := ih _ _ hlast ⟨hsorted, heach⟩
        exact ho.insert (.tables hclosed hall hs.sorted hs.each)
    · cases h

theorem ordered_of_addNew (h : addNew key d table = .ok table') (hd : d.Ordered)
    (ho : DraftTable.Ordered table) : DraftTable.Ordered table' := by
  unfold addNew at h
  split at h
  · cases h
  · cases h
    exact ho.insert hd

theorem keeps_addDotted (hd : d.Ordered) : Keeps (addDotted key d) := by
  rintro ⟨origin, entries⟩ body' h ho
  have hnew : (addNew key d entries).map (fun entries => (Origin.dotted, entries)) = .ok body' := by
    cases origin with
    | header => cases h
    | _ => exact h
  obtain ⟨table', ha, rfl⟩ := map_eq_ok_iff.mp hnew
  exact ordered_of_addNew ha hd ho

theorem ordered_of_addValue (h : addValue path key v table = .ok table') (hv : v.Ordered)
    (ho : DraftTable.Ordered table) : DraftTable.Ordered table' := by
  unfold addValue at h
  split at h
  · exact ordered_of_addNew h (.value hv) ho
  · obtain ⟨body', hb, rfl⟩ := map_eq_ok_iff.mp h
    exact keeps_descend (keeps_addDotted (.value hv)) path _ _ hb ho

theorem ordered_of_below {change : DraftTable → Except Fault DraftTable}
    (hc : ∀ t t', change t = .ok t' → DraftTable.Ordered t → DraftTable.Ordered t')
    (h : below path change table = .ok table') (ho : DraftTable.Ordered table) :
    DraftTable.Ordered table' := by
  obtain ⟨body', hb, rfl⟩ := map_eq_ok_iff.mp h
  refine keeps_descend (fun b b' hb ho => ?_) path _ _ hb ho
  obtain ⟨t', ht, rfl⟩ := map_eq_ok_iff.mp hb
  exact hc _ _ ht ho

theorem ordered_of_addTable {fill : DraftTable → Except Fault DraftTable}
    (hfill : ∀ t t', fill t = .ok t' → DraftTable.Ordered t → DraftTable.Ordered t')
    (h : addTable path key fill table = .ok table') (ho : DraftTable.Ordered table) :
    DraftTable.Ordered table' := by
  refine ordered_of_below (fun t t' ht ho => ?_) h ho
  split at ht
  · obtain ⟨sub, hsub, rfl⟩ := map_eq_ok_iff.mp ht
    have hs := hfill _ _ hsub DraftTable.ordered_nil
    exact ho.insert (.table hs.sorted hs.each)
  · rename_i hf
    obtain ⟨sub, hsub, rfl⟩ := map_eq_ok_iff.mp ht
    cases ho.of_find? hf with
    | table hsorted heach =>
      have hs := hfill _ _ hsub ⟨hsorted, heach⟩
      exact ho.insert (.table hs.sorted hs.each)
  · cases ht

theorem ordered_of_addRepeated {sub : DraftTable} (hsub : DraftTable.Ordered sub)
    (h : addRepeated path key sub table = .ok table') (ho : DraftTable.Ordered table) :
    DraftTable.Ordered table' := by
  refine ordered_of_below (fun t t' ht ho => ?_) h ho
  split at ht
  · cases ht
    exact ho.insert (.tables (fun _ h => nomatch h) (fun _ h => nomatch h) hsub.sorted hsub.each)
  · rename_i closed last hf
    cases ht
    cases ho.of_find? hf with
    | tables hclosed hall hsorted heach =>
      -- the table that was open until now is closed
      refine ho.insert (.tables (fun entries he => ?_) (fun entries he => ?_) hsub.sorted hsub.each)
      · rcases List.mem_append.mp he with he | he
        · exact hclosed entries he
        · exact List.mem_singleton.mp he ▸ hsorted
      · rcases List.mem_append.mp he with he | he
        · exact hall entries he
        · exact List.mem_singleton.mp he ▸ heach
  · cases ht

-- ---------------------------------------------------------------------------
-- Reading
-- ---------------------------------------------------------------------------

theorem isScalar_ofInteger (n : Int) : (Value.ofInteger n).isScalar = true := by
  unfold Value.ofInteger
  split <;> rfl

theorem isScalar_ofFloat (f : FloatLiteral) : (Value.ofFloat f).isScalar = true := by
  unfold Value.ofFloat
  split <;> rfl

theorem isScalar_decimalInteger (cs : List Char) : (decimalInteger cs).isScalar = true := by
  unfold decimalInteger
  split
  · exact isScalar_ofInteger _
  · rfl

theorem isScalar_of_readBase? {base : Nat} {isDigit : Char → Bool} {cs : List Char}
    (h : readBase? base isDigit cs = some v) : v.isScalar = true := by
  simp only [readBase?, Option.ite_none_right_eq_some, Option.some.injEq] at h
  rw [← h.2]
  split
  · rfl
  · exact isScalar_ofInteger _

theorem isScalar_of_readNumber? {cs : List Char} (h : readNumber? cs = some v) :
    v.isScalar = true := by
  unfold readNumber? at h
  simp only at h
  split at h
  · split at h
    · cases h
    · cases h
      exact isScalar_decimalInteger cs
  · split at h <;> cases h
    rfl
  · split at h <;> cases h
    rfl
  · split at h
    · cases h
    split at h
    · split at h
      · obtain ⟨f, -, rfl⟩ := Option.map_eq_some_iff.mp h
        exact isScalar_ofFloat f
      · cases h
    · split at h <;> cases h
      exact isScalar_decimalInteger cs

theorem isScalar_of_readScalar? {cs : List Char} (h : readScalar? cs = some v) :
    v.isScalar = true := by
  unfold readScalar? at h
  split at h
  · cases h
    rfl
  · cases h
    rfl
  · exact isScalar_of_readBase? h
  · exact isScalar_of_readBase? h
  · exact isScalar_of_readBase? h
  · split at h
    · cases h
      rfl
    · exact isScalar_of_readNumber? h

theorem orIllFormed_eq_ok_iff {α : Type} {o : Option α} {a : α} :
    orIllFormed o = .ok a ↔ o = some a := by
  cases o <;> simp [orIllFormed]

mutual
theorem WrittenValue.ordered_of_read : {w : WrittenValue} → {v : Value} → w.read = .ok v →
    v.Ordered
  | .scalar _, _, h => by
    rw [WrittenValue.read, orIllFormed_eq_ok_iff] at h
    exact .scalar (isScalar_of_readScalar? h)
  | .quoted _, _, h => by
    rw [WrittenValue.read, orIllFormed_eq_ok_iff] at h
    obtain ⟨text, -, rfl⟩ := Option.map_eq_some_iff.mp h
    exact .scalar rfl
  | .array _, _, h => by
    rw [WrittenValue.read] at h
    obtain ⟨items, hi, rfl⟩ := map_eq_ok_iff.mp h
    exact .array (ordered_of_readItems hi)
  | .table _, _, h => by
    rw [WrittenValue.read] at h
    obtain ⟨entries, he, rfl⟩ := map_eq_ok_iff.mp h
    have ho := ordered_of_readEntries he DraftTable.ordered_nil
    exact .table (sorted_draftEntries ho.sorted) (ordered_draftEntries ho.each)
theorem ordered_of_readItems : {ws : List WrittenValue} → {vs : List Value} →
    readItems ws = .ok vs → ∀ v ∈ vs, v.Ordered
  | [], _, h => by
    cases h
    exact fun _ hv => nomatch hv
  | w :: ws, _, h => by
    rw [readItems] at h
    obtain ⟨v, hv, h⟩ := bind_eq_ok_iff.mp h
    obtain ⟨vs, hvs, rfl⟩ := map_eq_ok_iff.mp h
    intro u hu
    rcases List.mem_cons.mp hu with rfl | hu
    · exact WrittenValue.ordered_of_read hv
    · exact ordered_of_readItems hvs u hu
theorem ordered_of_readEntries : {entries : List (WrittenKey × WrittenValue)} →
    {table table' : DraftTable} → readEntries entries table = .ok table' →
    DraftTable.Ordered table → DraftTable.Ordered table'
  | [], _, _, h, ho => by
    cases h
    exact ho
  | (_, w) :: rest, _, _, h, ho => by
    rw [readEntries] at h
    obtain ⟨⟨path, key⟩, -, h⟩ := bind_eq_ok_iff.mp h
    obtain ⟨v, hv, h⟩ := bind_eq_ok_iff.mp h
    obtain ⟨next, hn, h⟩ := bind_eq_ok_iff.mp h
    exact ordered_of_readEntries h (ordered_of_addValue hn (WrittenValue.ordered_of_read hv) ho)
end

theorem Section.ordered_of_addTo {s : Section} (h : s.addTo table = .ok table')
    (ho : DraftTable.Ordered table) : DraftTable.Ordered table' := by
  unfold Section.addTo at h
  obtain ⟨⟨path, key⟩, -, h⟩ := bind_eq_ok_iff.mp h
  simp only at h
  split at h
  · obtain ⟨sub, hsub, h⟩ := bind_eq_ok_iff.mp h
    exact ordered_of_addRepeated (ordered_of_readEntries hsub DraftTable.ordered_nil) h ho
  · exact ordered_of_addTable (fun t t' ht => ordered_of_readEntries ht) h ho

theorem ordered_of_foldlM {sections : List Section}
    (h : sections.foldlM (fun root s => s.addTo root) table = .ok table')
    (ho : DraftTable.Ordered table) : DraftTable.Ordered table' := by
  induction sections generalizing table with
  | nil =>
    cases h
    exact ho
  | cons s rest ih =>
    rw [List.foldlM_cons] at h
    obtain ⟨next, hn, h⟩ := bind_eq_ok_iff.mp h
    exact ih h (Section.ordered_of_addTo hn ho)

theorem ordered_of_parse {document : String} {entries : Table}
    (h : parse document = .ok entries) : (Value.table entries).Ordered := by
  unfold parse at h
  obtain ⟨statements, -, h⟩ := bind_eq_ok_iff.mp h
  unfold build at h
  simp only at h
  obtain ⟨first, hfirst, h⟩ := bind_eq_ok_iff.mp h
  obtain ⟨root, hroot, h⟩ := bind_eq_ok_iff.mp h
  cases h
  have ho := ordered_of_foldlM hroot (ordered_of_readEntries hfirst DraftTable.ordered_nil)
  exact .table (sorted_draftEntries ho.sorted) (ordered_draftEntries ho.each)

end SimApprove.Toml

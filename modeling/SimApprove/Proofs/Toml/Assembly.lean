import SimApprove.Proofs.Text.Utf8
import SimApprove.Proofs.Toml.Keys
import SimApprove.Proofs.Toml.Reading

/-!
# Tables of documents

What the table of a document of `Line`s holds, for a document with one table inside it.
`Layout` has the ways to write such a document: the inner table under a header at the end,
by dotted keys, or between brackets, with the lines in any order. `parse_of_layout` says
that they all come to the same: every key has its value, and there are no others.
-/

namespace SimApprove.Toml

-- ---------------------------------------------------------------------------
-- Keys and values
-- ---------------------------------------------------------------------------

def Datum.value : Datum → Value
  | text s => .string s
  | number n => .integer n

def Datum.IsSound : Datum → Prop
  | text _ => True
  | number n => integerInRange n = true

theorem Datum.IsSound.read_written {datum : Datum} (h : datum.IsSound) :
    datum.written.read = .ok datum.value := by
  cases datum with
  | text s => rfl
  | number n => rw [written, WrittenValue.read, readScalar?_toDigits h]; rfl

theorem readKey_writtenKey {path : List String} {key : String} (h : path.length < keyLimit) :
    readKey (writtenKey path key) = .ok (path, key) := by
  have hparts : (writtenKey path key).mapM id = some (path ++ [key]) :=
    Text.Utf8.mapM_id_eq_some_iff.mpr rfl
  have hlength : ¬ keyLimit < (path ++ [key]).length := by
    rw [List.length_append]
    exact Nat.not_lt.mpr h
  simp only [readKey, hparts, if_neg hlength, List.reverse_append, List.reverse_cons,
    List.reverse_nil, List.nil_append, List.cons_append, List.reverse_reverse]

-- ---------------------------------------------------------------------------
-- One entry after the other
-- ---------------------------------------------------------------------------

/-- What a table holds apart from one place, and what it has there. -/
structure Assembled (name : String) (entries : List (String × Datum)) (slot : Option Draft)
    (table : DraftTable) : Prop where
  entries : ∀ key, key ≠ name →
    find? table key = (find? entries key).map fun datum => .value datum.value
  slot : find? table name = slot

def dottedSlot : DraftTable → Option Draft
  | [] => none
  | table => some (.table .dotted table)

/-- The keys are free, and none is that of the inner table. -/
structure Fresh (name : String) (entries done : List (String × Datum)) : Prop where
  notMem : name ∉ entries.map Prod.fst
  nodup : ((entries ++ done).map Prod.fst).Nodup
  sound : ∀ entry ∈ entries, entry.2.IsSound

variable {name key : String} {entries done top sub : List (String × Datum)} {slot : Option Draft}
  {root table : DraftTable} {datum : Datum}

theorem assembled_nil (name : String) : Assembled name [] none [] := ⟨fun _ _ => rfl, rfl⟩

theorem Assembled.insert (h : Assembled name done slot table) (hn : key ≠ name) (datum : Datum) :
    Assembled name ((key, datum) :: done) slot (insert key (.value datum.value) table) where
  entries k hk := by
    rw [find?_insert, find?_cons, h.entries k hk]
    split <;> rfl
  slot := by rw [find?_insert, if_neg hn, h.slot]

theorem Assembled.set_slot (h : Assembled name done slot table) (d : Draft) :
    Assembled name done (some d) (Toml.insert name d table) where
  entries k hk := by rw [find?_insert, if_neg (Ne.symm hk), h.entries k hk]
  slot := by rw [find?_insert, if_pos rfl]

theorem Assembled.find?_eq_none (h : Assembled name done slot table) (hn : key ≠ name)
    (hf : key ∉ done.map Prod.fst) : find? table key = none := by
  rw [h.entries key hn, Toml.find?_eq_none hf]
  rfl

theorem Fresh.cons {entry : String × Datum} (h : Fresh name (entry :: entries) done) :
    entry.1 ≠ name ∧ entry.1 ∉ done.map Prod.fst ∧ entry.2.IsSound ∧
      Fresh name entries (entry :: done) := by
  obtain ⟨hname, hnodup, hsound⟩ := h
  rw [List.map_cons, List.mem_cons, not_or] at hname
  obtain ⟨hentry, hmore⟩ := List.forall_mem_cons.mp hsound
  have hperm : (entries ++ entry :: done).Perm (entry :: entries ++ done) := List.perm_middle
  rw [List.cons_append, List.map_cons, List.nodup_cons, List.map_append, List.mem_append,
    not_or] at hnodup
  refine ⟨Ne.symm hname.1, hnodup.1.2, hentry, hname.2, ?_, hmore⟩
  rw [(hperm.map Prod.fst).nodup_iff, List.cons_append, List.map_cons, List.nodup_cons,
    List.map_append, List.mem_append, not_or]
  exact hnodup

theorem addNew_of_find? {d : Draft} (h : find? table key = none) :
    addNew key d table = .ok (insert key d table) := by
  simp [addNew, h]

theorem readEntries_cons {path : List String} (hp : path.length < keyLimit) (hd : datum.IsSound)
    (rest : List (WrittenKey × WrittenValue)) :
    readEntries ((writtenKey path key, datum.written) :: rest) table =
      addValue path key datum.value table >>= readEntries rest := by
  simp only [readEntries, readKey_writtenKey hp, hd.read_written, bind, Except.bind]

theorem Assembled.readEntries (h : Assembled name done slot table)
    (hf : Fresh name entries done) :
    ∃ table', readEntries (entries.map writtenEntry) table = .ok table' ∧
      Assembled name (entries.reverse ++ done) slot table' := by
  induction entries generalizing done table with
  | nil => exact ⟨table, rfl, h⟩
  | cons entry entries ih =>
    obtain ⟨hname, hfresh, hsound, hmore⟩ := hf.cons
    obtain ⟨table', hread, hall⟩ := ih (h.insert hname entry.2) hmore
    refine ⟨table', ?_, by simpa using hall⟩
    have hadd : addValue [] entry.1 entry.2.value table = _ :=
      addNew_of_find? (h.find?_eq_none hname hfresh)
    rw [List.map_cons, writtenEntry, readEntries_cons (by decide) hsound, hadd]
    exact hread

-- ---------------------------------------------------------------------------
-- Dotted keys
-- ---------------------------------------------------------------------------

theorem dottedSlot_insert (key : String) (d : Draft) (table : DraftTable) :
    dottedSlot (insert key d table) = some (.table .dotted (insert key d table)) := by
  have hne : insert key d table ≠ [] := by
    intro he
    have hf : find? (insert key d table) key = _ := find?_insert key
    rw [he, if_pos rfl] at hf
    cases hf
  unfold dottedSlot
  split
  · contradiction
  · rfl

theorem Assembled.addValue_dotted (h : Assembled name done (dottedSlot table) root)
    (hf : find? table key = none) (v : Value) : addValue [name] key v root =
      .ok (Toml.insert name (.table .dotted (Toml.insert key (.value v) table)) root) := by
  have hslot := h.slot
  cases table with
  | nil =>
    simp only [addValue, descend, hslot, dottedSlot, addDotted, Except.map, bind, Except.bind]
    rfl
  | cons entry rest =>
    simp only [addValue, descend, hslot, dottedSlot, addDotted, addNew_of_find? hf, Except.map,
      bind, Except.bind]
    rfl

/-- An entry of the document, or of the inner table by a dotted key. -/
abbrev Placed := (String × Datum) ⊕ (String × Datum)

def Placed.written (name : String) : Placed → WrittenKey × WrittenValue
  | .inl entry => writtenEntry entry
  | .inr entry => (writtenKey [name] entry.1, entry.2.written)

theorem Assembled.readEntries_dotted {items : List Placed}
    (ht : Assembled name top (dottedSlot table) root) (hs : Assembled name sub none table)
    (hl : Fresh name (items.filterMap Sum.getLeft?) top)
    (hr : Fresh name (items.filterMap Sum.getRight?) sub) :
    ∃ root' table', Toml.readEntries (items.map (Placed.written name)) root = .ok root' ∧
      Assembled name ((items.filterMap Sum.getLeft?).reverse ++ top) (dottedSlot table') root' ∧
      Assembled name ((items.filterMap Sum.getRight?).reverse ++ sub) none table' := by
  induction items generalizing top sub root table with
  | nil => exact ⟨root, table, rfl, ht, hs⟩
  | cons item items ih =>
    cases item with
    | inl entry =>
      have hcons : Fresh name (entry :: items.filterMap Sum.getLeft?) top := hl
      obtain ⟨hname, hfresh, hsound, hmore⟩ := hcons.cons
      obtain ⟨root', table', hread, hall, hsub⟩ := ih (ht.insert hname entry.2) hs hmore hr
      refine ⟨root', table', ?_, by simpa using hall, hsub⟩
      have hadd : addValue [] entry.1 entry.2.value root = _ :=
        addNew_of_find? (ht.find?_eq_none hname hfresh)
      rw [List.map_cons, Placed.written, writtenEntry, readEntries_cons (by decide) hsound, hadd]
      exact hread
    | inr entry =>
      have hcons : Fresh name (entry :: items.filterMap Sum.getRight?) sub := hr
      obtain ⟨hname, hfresh, hsound, hmore⟩ := hcons.cons
      have hslot := ht.set_slot (.table .dotted (Toml.insert entry.1 (.value entry.2.value) table))
      rw [← dottedSlot_insert] at hslot
      obtain ⟨root', table', hread, hall, hsub⟩ := ih hslot (hs.insert hname entry.2) hl hmore
      refine ⟨root', table', ?_, hall, by simpa using hsub⟩
      have hone : [name].length < keyLimit := (by decide : 1 < keyLimit)
      have hadd := ht.addValue_dotted (hs.find?_eq_none hname hfresh) entry.2.value
      rw [List.map_cons, Placed.written, readEntries_cons hone hsound, hadd]
      exact hread

-- ---------------------------------------------------------------------------
-- Layouts
-- ---------------------------------------------------------------------------

def topLine (entry : String × Datum) : Line := .entry [] entry.1 entry.2

def Placed.line (name : String) : Placed → Line
  | .inl entry => topLine entry
  | .inr entry => .entry [name] entry.1 entry.2

/-- The ways to write a document with the inner table `name`. -/
inductive Layout (name : String) (top sub : List (String × Datum)) : List Line → Prop
  | header {tops subs : List (String × Datum)} (ht : tops.Perm top) (hs : subs.Perm sub) :
      Layout name top sub (tops.map topLine ++ .header name :: subs.map topLine)
  | dotted {items : List Placed} (hi : items.Perm (top.map .inl ++ sub.map .inr)) :
      Layout name top sub (items.map (Placed.line name))
  | between {before after subs : List (String × Datum)} (ht : (before ++ after).Perm top)
      (hs : subs.Perm sub) :
      Layout name top sub (before.map topLine ++ .group name subs :: after.map topLine)

theorem Layout.isBare {lines : List Line} (h : Layout name top sub lines) (hn : IsBareKey name)
    (ht : ∀ entry ∈ top, IsBareKey entry.1) (hs : ∀ entry ∈ sub, IsBareKey entry.1) :
    ∀ line ∈ lines, line.IsBare := by
  have hline : ∀ entry ∈ top, (topLine entry).IsBare := fun entry he =>
    ⟨(fun _ hp => nomatch hp), ht entry he⟩
  have hinner : ∀ entry ∈ sub, (topLine entry).IsBare := fun entry he =>
    ⟨(fun _ hp => nomatch hp), hs entry he⟩
  cases h with
  | header htp hsp =>
    simp only [List.mem_append, List.mem_cons, List.mem_map]
    rintro line (⟨entry, he, rfl⟩ | rfl | ⟨entry, he, rfl⟩)
    · exact hline entry (htp.mem_iff.mp he)
    · exact hn
    · exact hinner entry (hsp.mem_iff.mp he)
  | dotted hi =>
    simp only [List.mem_map]
    rintro line ⟨item, hm, rfl⟩
    have hitem := hi.mem_iff.mp hm
    simp only [List.mem_append, List.mem_map] at hitem
    obtain ⟨entry, he, rfl⟩ | ⟨entry, he, rfl⟩ := hitem
    · exact hline entry he
    · exact ⟨by simpa using hn, hs entry he⟩
  | between htp hsp =>
    simp only [List.mem_append, List.mem_cons, List.mem_map]
    rintro line (⟨entry, he, rfl⟩ | rfl | ⟨entry, he, rfl⟩)
    · exact hline entry (htp.mem_iff.mp (List.mem_append_left _ he))
    · exact ⟨hn, fun entry he => hs entry (hsp.mem_iff.mp he)⟩
    · exact hline entry (htp.mem_iff.mp (List.mem_append_right _ he))

/-- A table with these entries, and with those of the inner table under its name. An inner
table without entries need not be there. -/
structure Tells (name : String) (top sub : List (String × Datum)) (t : Table) : Prop where
  top : ∀ key, key ≠ name → find? t key = (find? top key).map Datum.value
  sub : (find? t name = none ∧ sub = []) ∨ ∃ inner, find? t name = some (.table inner) ∧
    ∀ key, find? inner key = (find? sub key).map Datum.value

theorem Fresh.of_perm {entries' : List (String × Datum)} (h : Fresh name entries [])
    (hp : entries'.Perm entries) : Fresh name entries' [] where
  notMem := by
    rw [(hp.map Prod.fst).mem_iff]
    exact h.notMem
  nodup := by
    have hn := h.nodup
    rw [List.append_nil] at hn ⊢
    exact (hp.map Prod.fst).nodup_iff.mpr hn
  sound entry he := h.sound entry (hp.mem_iff.mp he)

theorem Assembled.find?_eq (h : Assembled name done slot table) (hp : done.Perm entries)
    (hf : Fresh name entries []) (hn : key ≠ name) :
    find? (draftEntries table) key = (find? entries key).map Datum.value := by
  have hnodup : (done.map Prod.fst).Nodup := by
    have hall := (hf.of_perm hp).nodup
    rwa [List.append_nil] at hall
  rw [find?_draftEntries, h.entries key hn, find?_of_perm hp hnodup, Option.map_map]
  rfl

theorem Assembled.find?_sub_eq (h : Assembled name done none table) (hp : done.Perm sub)
    (hf : Fresh name sub []) (key : String) :
    find? (draftEntries table) key = (find? sub key).map Datum.value := by
  by_cases hn : key = name
  · rw [hn, find?_draftEntries, h.slot, Toml.find?_eq_none hf.notMem]
    rfl
  · exact h.find?_eq hp hf hn

theorem Assembled.tells {inner : List (String × Datum)} {d : Draft}
    (h : Assembled name done (some d) root) (hp : done.Perm top) (ht : Fresh name top [])
    (hd : d.toValue = .table (draftEntries table)) (hi : Assembled name inner none table)
    (hps : inner.Perm sub) (hs : Fresh name sub []) : Tells name top sub (draftEntries root) where
  top _ hn := h.find?_eq hp ht hn
  sub := by
    refine .inr ⟨draftEntries table, ?_, hi.find?_sub_eq hps hs⟩
    rw [find?_draftEntries, h.slot, Option.map_some, hd]

theorem Assembled.eq_nil (h : Assembled name done none []) (hn : name ∉ done.map Prod.fst) :
    done = [] := by
  cases done with
  | nil => rfl
  | cons entry rest =>
    rw [List.map_cons, List.mem_cons, not_or] at hn
    have hentry := h.entries entry.1 (Ne.symm hn.1)
    rw [find?_cons, if_pos rfl] at hentry
    cases hentry

theorem Assembled.tells_of_dotted {inner : List (String × Datum)}
    (h : Assembled name done (dottedSlot table) root) (hp : done.Perm top) (ht : Fresh name top [])
    (hi : Assembled name inner none table) (hps : inner.Perm sub) (hs : Fresh name sub []) :
    Tells name top sub (draftEntries root) := by
  cases table with
  | cons entry rest => exact h.tells hp ht rfl hi hps hs
  | nil =>
    obtain rfl := hi.eq_nil (hs.of_perm hps).notMem
    refine ⟨fun _ hn => h.find?_eq hp ht hn, .inl ⟨?_, hps.nil_eq.symm⟩⟩
    rw [find?_draftEntries, h.slot]
    rfl

-- ---------------------------------------------------------------------------
-- Documents
-- ---------------------------------------------------------------------------

theorem sections_entries (entries : List (WrittenKey × WrittenValue)) (rest : List Statement) :
    sections (entries.map (fun entry => .entry entry.1 entry.2) ++ rest) =
      (entries ++ (sections rest).1, (sections rest).2) := by
  induction entries with
  | nil => rfl
  | cons entry entries ih =>
    simp only [List.map_cons, List.cons_append, sections, ih]

theorem readEntries_append (entries more : List (WrittenKey × WrittenValue)) (table : DraftTable) :
    readEntries (entries ++ more) table = readEntries entries table >>= readEntries more := by
  induction entries generalizing table with
  | nil => rfl
  | cons entry entries ih =>
    obtain ⟨key, v⟩ := entry
    rw [List.cons_append, readEntries, readEntries]
    cases readKey key with
    | error => rfl
    | ok parts =>
      cases v.read with
      | error => rfl
      | ok value =>
        simp only [bind, Except.bind]
        cases addValue parts.1 parts.2 value table with
        | error => rfl
        | ok next => exact ih next

theorem build_entries {entries : List (WrittenKey × WrittenValue)}
    (h : readEntries entries [] = .ok root) :
    build (entries.map fun entry => .entry entry.1 entry.2) = .ok (draftEntries root) := by
  have hs := sections_entries entries []
  simp only [List.append_nil, sections] at hs
  simp only [build, hs, h, bind, Except.bind]
  rfl

theorem build_of_dotted {items : List Placed}
    (hi : items.Perm (top.map .inl ++ sub.map .inr)) (ht : Fresh name top [])
    (hs : Fresh name sub []) :
    ∃ t, build ((items.map (Placed.line name)).map Line.statement) = .ok t ∧
      Tells name top sub t := by
  have hlines : (items.map (Placed.line name)).map Line.statement =
      (items.map (Placed.written name)).map fun entry => .entry entry.1 entry.2 := by
    simp only [List.map_map]
    refine List.map_congr_left fun item _ => ?_
    cases item <;> rfl
  have htop : (items.filterMap Sum.getLeft?).Perm top := by
    simpa [List.filterMap_map, Function.comp_def] using hi.filterMap Sum.getLeft?
  have hsub : (items.filterMap Sum.getRight?).Perm sub := by
    simpa [List.filterMap_map, Function.comp_def] using hi.filterMap Sum.getRight?
  have hstart : Assembled name [] (dottedSlot []) [] := assembled_nil name
  obtain ⟨root, table, hread, hroot, htable⟩ := hstart.readEntries_dotted (assembled_nil name)
    (ht.of_perm htop) (hs.of_perm hsub)
  rw [List.append_nil] at hroot htable
  rw [hlines]
  exact ⟨_, build_entries hread, hroot.tells_of_dotted ((List.reverse_perm _).trans htop) ht htable
    ((List.reverse_perm _).trans hsub) hs⟩

theorem statements_topLine (entries : List (String × Datum)) :
    (entries.map topLine).map Line.statement =
      (entries.map writtenEntry).map fun entry => .entry entry.1 entry.2 := by
  simp only [List.map_map]
  rfl

theorem build_of_header {tops subs : List (String × Datum)} (htp : tops.Perm top)
    (hsp : subs.Perm sub) (ht : Fresh name top []) (hs : Fresh name sub []) :
    ∃ t, build ((tops.map topLine ++ .header name :: subs.map topLine).map Line.statement) = .ok t ∧
      Tells name top sub t := by
  obtain ⟨before, hbefore, hroot⟩ := (assembled_nil name).readEntries (ht.of_perm htp)
  obtain ⟨inner, hinner, htable⟩ := (assembled_nil name).readEntries (hs.of_perm hsp)
  rw [List.append_nil] at hroot htable
  have hadd : Section.addTo ⟨writtenKey [] name, false, subs.map writtenEntry⟩ before =
      .ok (insert name (.table .header inner) before) := by
    have hkey : readKey (writtenKey [] name) = .ok ([], name) := readKey_writtenKey (by decide)
    simp only [Section.addTo, hkey, bind, Except.bind, Bool.false_eq_true, if_false, addTable,
      below, descend, hroot.slot, hinner, Except.map]
  have hbuild : build ((tops.map topLine ++ .header name :: subs.map topLine).map Line.statement) =
      .ok (draftEntries (insert name (.table .header inner) before)) := by
    have hrest := sections_entries (subs.map writtenEntry) []
    simp only [List.append_nil, sections] at hrest
    rw [List.map_append, List.map_cons, statements_topLine, statements_topLine, build,
      sections_entries, Line.statement]
    simp only [sections, hrest, List.append_nil, hbefore, bind, Except.bind, List.foldlM_cons,
      List.foldlM_nil, hadd]
    rfl
  exact ⟨_, hbuild, (hroot.set_slot _).tells ((List.reverse_perm _).trans htp) ht rfl htable
    ((List.reverse_perm _).trans hsp) hs⟩

theorem Fresh.split {before after : List (String × Datum)} (h : Fresh name (before ++ after) []) :
    Fresh name before [] ∧ Fresh name after before.reverse := by
  obtain ⟨hname, hnodup, hsound⟩ := h
  rw [List.map_append, List.mem_append, not_or] at hname
  rw [List.append_nil] at hnodup
  rw [List.forall_mem_append] at hsound
  have hperm : (after ++ before.reverse).Perm (before ++ after) :=
    (List.perm_append_comm).trans ((List.reverse_perm before).append_right after)
  refine ⟨⟨hname.1, ?_, hsound.1⟩, ⟨hname.2, (hperm.map Prod.fst).nodup_iff.mpr hnodup, hsound.2⟩⟩
  rw [List.map_append] at hnodup
  rw [List.append_nil]
  exact (List.nodup_append.mp hnodup).1

theorem build_of_between {before after subs : List (String × Datum)}
    (htp : (before ++ after).Perm top) (hsp : subs.Perm sub) (ht : Fresh name top [])
    (hs : Fresh name sub []) :
    ∃ t, build ((before.map topLine ++ .group name subs :: after.map topLine).map Line.statement) =
      .ok t ∧ Tells name top sub t := by
  obtain ⟨hfirst, hlast⟩ := (ht.of_perm htp).split
  obtain ⟨first, hbefore, hroot⟩ := (assembled_nil name).readEntries hfirst
  obtain ⟨inner, hinner, htable⟩ := (assembled_nil name).readEntries (hs.of_perm hsp)
  rw [List.append_nil] at hroot htable
  obtain ⟨root, hafter, hall⟩ :=
    (hroot.set_slot (.value (.table (draftEntries inner)))).readEntries hlast
  have hgroup : readEntries ((writtenKey [] name, .table (subs.map writtenEntry)) ::
      after.map writtenEntry) first = .ok root := by
    have hkey : readKey (writtenKey [] name) = .ok ([], name) := readKey_writtenKey (by decide)
    have hadd : addValue [] name (.table (draftEntries inner)) first = _ :=
      addNew_of_find? hroot.slot
    simp only [readEntries, hkey, WrittenValue.read, hinner, Except.map, bind, Except.bind, hadd]
    exact hafter
  have hlines : (before.map topLine ++ .group name subs :: after.map topLine).map Line.statement =
      (before.map writtenEntry ++ (writtenKey [] name, .table (subs.map writtenEntry)) ::
        after.map writtenEntry).map fun entry => .entry entry.1 entry.2 := by
    simp only [List.map_append, List.map_cons, statements_topLine]
    rfl
  rw [hlines]
  refine ⟨_, build_entries ?_, hall.tells ?_ ht rfl htable
    ((List.reverse_perm _).trans hsp) hs⟩
  · rw [readEntries_append, hbefore]
    exact hgroup
  · exact (List.perm_append_comm.trans (((List.reverse_perm _).append
      (List.reverse_perm _)))).trans htp

/-- However a document is laid out and spelled, its entries are read. -/
theorem parse_of_layout {lines : List Line} {document : String} (h : Layout name top sub lines)
    (hd : DocumentSpelling lines document.toList) (ht : Fresh name top [])
    (hs : Fresh name sub []) : ∃ t, parse document = .ok t ∧ Tells name top sub t := by
  rw [parse_of_spelling hd]
  cases h with
  | header htp hsp => exact build_of_header htp hsp ht hs
  | dotted hi => exact build_of_dotted hi ht hs
  | between htp hsp => exact build_of_between htp hsp ht hs

end SimApprove.Toml

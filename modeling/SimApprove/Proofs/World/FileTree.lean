import SimApprove.World.OpenDatabase

/-!
# Trees that differ in one database

`AgreeBut here t u`: both trees hold a database at `here`, and its content is all
in which they may differ. Then every path leads to the same place in both, the same
programs can be started, and a path that is opened as the database at `here` in one
tree is opened so in the other. A grant leaves such a tree (`agreeBut_setDatabase`).
-/

namespace SimApprove.FileTree

structure AgreeBut (here : Location) (t u : FileTree) : Prop where
  root : t.root = u.root
  elsewhere : ∀ there, there ≠ here → t.node? there = u.node? there
  left : ∃ db, t.node? here = some (.database db)
  right : ∃ db, u.node? here = some (.database db)

variable {t u v : FileTree} {here there : Location} {path : String} {db : Consent.Database}

theorem AgreeBut.refl (h : ∃ db, t.node? here = some (.database db)) : AgreeBut here t t :=
  ⟨rfl, fun _ _ => rfl, h, h⟩

theorem AgreeBut.symm (h : AgreeBut here t u) : AgreeBut here u t :=
  ⟨h.root.symm, fun there hn => (h.elsewhere there hn).symm, h.right, h.left⟩

theorem AgreeBut.trans (h : AgreeBut here t u) (h' : AgreeBut here u v) : AgreeBut here t v :=
  ⟨h.root.trans h'.root, fun there hn => (h.elsewhere there hn).trans (h'.elsewhere there hn),
    h.left, h'.right⟩

theorem database_of_node? (h : t.node? here = some (.database db)) : t.database here = .ok db := by
  rw [database, h]

theorem node?_of_database {table : Consent.Table} (h : t.database here = .ok (.withTable table)) :
    t.node? here = some (.database (.withTable table)) := by
  unfold database at h
  split at h
  · rename_i hn
    cases h
    exact hn
  all_goals cases h

theorem isNone_node?_of_database (h : t.database here = .ok db) :
    (t.node? here).isNone = false := by
  cases hn : t.node? here with
  | none => simp [database, hn] at h
  | some _ => rfl

-- ---------------------------------------------------------------------------
-- What depends on the root alone
-- ---------------------------------------------------------------------------

theorem relative?_eq_of_root (h : t.root = u.root) (path : String) :
    t.relative? path = u.relative? path := by
  simp only [relative?, h]

theorem fullSize_eq_of_root (h : t.root = u.root) (there : Location) :
    t.fullSize there = u.fullSize there := by
  simp only [fullSize, h]

theorem locateFrom_eq_of_root (h : t.root = u.root) (names : List String) (start : Location) :
    t.locateFrom start names = u.locateFrom start names := by
  induction names generalizing start with
  | nil => simp only [locateFrom, fullSize_eq_of_root h]
  | cons name rest ih => simp only [locateFrom, fullSize_eq_of_root h, ih]

theorem locate?_eq_of_root (h : t.root = u.root) : t.locate? = u.locate? := by
  funext path
  simp only [locate?, relative?_eq_of_root h, locateFrom_eq_of_root h]

-- ---------------------------------------------------------------------------
-- What such trees have in common
-- ---------------------------------------------------------------------------

/-- A question that has one answer for all databases has one for each node. -/
theorem AgreeBut.question_eq {α : Type} (h : AgreeBut here t u) (question : Option Node → α)
    (answer : α) (hdb : ∀ content, question (some (.database content)) = answer)
    (there : Location) : question (t.node? there) = question (u.node? there) := by
  by_cases hn : there = here
  · obtain ⟨left, hl⟩ := h.left
    obtain ⟨right, hr⟩ := h.right
    rw [hn, hl, hr, hdb, hdb]
  · rw [h.elsewhere there hn]

theorem AgreeBut.isDirectory_eq (h : AgreeBut here t u) (there : Location) :
    t.isDirectory there = u.isDirectory there :=
  h.question_eq (fun node => decide (node = some .directory)) false (fun _ => rfl) there

theorem AgreeBut.isNone_eq (h : AgreeBut here t u) (there : Location) :
    (t.node? there).isNone = (u.node? there).isNone :=
  h.question_eq Option.isNone false (fun _ => rfl) there

theorem AgreeBut.walk_eq (h : AgreeBut here t u) (names : List String) (start : Location) :
    t.walk start names = u.walk start names := by
  induction names generalizing start with
  | nil => rfl
  | cons name rest ih => simp only [walk, h.isDirectory_eq, h.isNone_eq, ih]

theorem AgreeBut.resolve_eq (h : AgreeBut here t u) (path : String) :
    t.resolve path = u.resolve path := by
  simp only [resolve, relative?_eq_of_root h.root, h.walk_eq]

theorem AgreeBut.has_eq (h : AgreeBut here t u) (path : String) : t.has path = u.has path := by
  simp only [has, h.resolve_eq]

theorem AgreeBut.programAt_eq (h : AgreeBut here t u) (path : String) :
    t.programAt path = u.programAt path := by
  unfold programAt
  rw [h.resolve_eq]
  refine congrArg (_ >>= ·) (funext fun there => ?_)
  by_cases hn : there = here
  · -- a database is no program, whatever it holds
    obtain ⟨left, hl⟩ := h.left
    obtain ⟨right, hr⟩ := h.right
    simp only [hn, hl, hr]
  · rw [h.elsewhere there hn]

theorem AgreeBut.search_eq (h : AgreeBut here t u) (name : String) (directories : List String)
    (sofar : SystemError) : t.search name sofar directories = u.search name sofar directories := by
  induction directories generalizing sofar with
  | nil => rfl
  | cons directory rest ih => simp only [search, h.programAt_eq, ih]

theorem AgreeBut.program_eq (h : AgreeBut here t u) (directories : List String) (name : String) :
    t.program directories name = u.program directories name := by
  simp only [program, h.programAt_eq, h.search_eq]

theorem AgreeBut.hasRoom_eq (h : AgreeBut here t u) (there : Location) :
    t.hasRoom there = u.hasRoom there := by
  simp only [hasRoom, h.isNone_eq, h.isDirectory_eq]

-- ---------------------------------------------------------------------------
-- Changing a database
-- ---------------------------------------------------------------------------

theorem listed?_setDatabase (t : FileTree) (here there : Location) (db : Consent.Database) :
    (t.setDatabase here db).listed? there =
      (t.listed? there).map fun node => if there = here then .database db else node := by
  have hp : ∀ entry : Location × Node,
      (if entry.1 = here then (entry.1, Node.database db) else entry).1 = entry.1 := by
    intro entry
    split <;> rfl
  simp only [setDatabase, listed?, List.find?_map, Function.comp_def, hp, Option.map_map]
  cases hf : t.nodes.find? fun entry => decide (entry.1 = there) with
  | none => rfl
  | some entry =>
    have he : entry.1 = there := by simpa using List.find?_some hf
    simp only [Option.map_some, he]
    split <;> rfl

theorem node?_setDatabase_of_ne (h : there ≠ here) :
    (t.setDatabase here db).node? there = t.node? there := by
  have hk : ∀ entry : Location × Node,
      (if entry.1 = here then (entry.1, Node.database db) else entry).1 = entry.1 := by
    intro entry
    split <;> rfl
  have ha : (t.setDatabase here db).nodes.any (fun entry => there.isPrefixOf entry.1) =
      t.nodes.any fun entry => there.isPrefixOf entry.1 := by
    simp only [setDatabase, List.any_map, Function.comp_def, hk]
  simp only [node?, listed?_setDatabase, if_neg h, Option.map_id_fun', ha, id]

theorem exists_listed?_of_database {db : Consent.Database}
    (h : t.node? here = some (.database db)) : ∃ node, t.listed? here = some node := by
  cases hl : t.listed? here with
  | some node => exact ⟨node, rfl⟩
  | none =>
    simp only [node?, hl] at h
    split at h <;> cases h

theorem node?_setDatabase {old : Consent.Database} (h : t.node? here = some (.database old)) :
    (t.setDatabase here db).node? here = some (.database db) := by
  obtain ⟨node, hl⟩ := exists_listed?_of_database h
  simp only [node?, listed?_setDatabase, hl, Option.map_some, if_true]

theorem database_setDatabase {old : Consent.Database} (h : t.node? here = some (.database old)) :
    (t.setDatabase here db).database here = .ok db :=
  database_of_node? (node?_setDatabase h)

theorem agreeBut_setDatabase {old : Consent.Database} (h : t.node? here = some (.database old))
    (db : Consent.Database) : AgreeBut here t (t.setDatabase here db) where
  root := rfl
  elsewhere _ hne := (node?_setDatabase_of_ne hne).symm
  left := ⟨old, h⟩
  right := ⟨db, node?_setDatabase h⟩

-- ---------------------------------------------------------------------------
-- Making a file
-- ---------------------------------------------------------------------------

theorem node?_of_unlisted (h : t.listed? here = none) : t.node? here =
    if here = [] ∨ t.nodes.any (fun entry => here.isPrefixOf entry.1) = true
      then some .directory else none := by
  simp only [node?, h]

theorem node?_of_isPrefix (hd : t.isDirectory here = true) (hl : t.listed? there = none)
    (hp : there <+: here) : t.node? there = some .directory := by
  have hd : t.node? here = some .directory := by simpa [isDirectory] using hd
  rw [node?_of_unlisted hl, if_pos]
  cases hlisted : t.listed? here with
  | some node =>
    obtain ⟨entry, hentry, -⟩ := Option.map_eq_some_iff.mp hlisted
    have he : entry.1 = here := by simpa using List.find?_some hentry
    exact .inr (List.any_eq_true.mpr
      ⟨entry, List.mem_of_find?_eq_some hentry, List.isPrefixOf_iff_prefix.mpr (he ▸ hp)⟩)
  | none =>
    rw [node?_of_unlisted hlisted, Option.ite_none_right_eq_some] at hd
    rcases hd.1 with rfl | hany
    · exact .inl (List.prefix_nil.mp hp)
    · obtain ⟨entry, hentry, he⟩ := List.any_eq_true.mp hany
      exact .inr (List.any_eq_true.mpr ⟨entry, hentry,
        List.isPrefixOf_iff_prefix.mpr (hp.trans (List.isPrefixOf_iff_prefix.mp he))⟩)

theorem node?_make (hr : t.hasRoom here = true) (there : Location) :
    (t.make here).node? there = if there = here then some (.document []) else t.node? there := by
  by_cases hn : there = here
  · simp [node?, listed?, make, hn]
  have hl : (t.make here).listed? there = t.listed? there := by
    simp [listed?, make, Ne.symm hn]
  rw [if_neg hn]
  cases hlisted : t.listed? there with
  | some node => simp only [node?, hl, hlisted]
  | none =>
    by_cases hp : there <+: here
    · simp only [hasRoom, Bool.and_eq_true] at hr
      have hparent : there <+: here.dropLast := by
        obtain ⟨rest, rfl⟩ := hp
        have hrest : rest ≠ [] := fun he => hn (by rw [he, List.append_nil])
        rw [List.dropLast_append_of_ne_nil hrest]
        exact List.prefix_append _ _
      rw [node?_of_isPrefix hr.1.2 hlisted hparent, node?_of_unlisted (hl.trans hlisted), if_pos]
      exact .inr (List.any_eq_true.mpr
        ⟨_, List.mem_cons_self, List.isPrefixOf_iff_prefix.mpr hp⟩)
    · have hf : there.isPrefixOf here = false := by
        rw [← Bool.not_eq_true, List.isPrefixOf_iff_prefix]
        exact hp
      rw [node?_of_unlisted (hl.trans hlisted), node?_of_unlisted hlisted]
      simp only [make, List.any_cons, hf, Bool.false_or]

-- ---------------------------------------------------------------------------
-- Paths of a database
-- ---------------------------------------------------------------------------

/-- There is a file at the path, and the engine opens the database at `here` by it,
for writing too. -/
def LeadsTo (t : FileTree) (path : String) (here : Location) : Prop :=
  t.has path = true ∧ ∃ bytes, Consent.Locator.ofPath path = .ok ⟨bytes, .readWrite, false⟩ ∧
    (Text.Utf8.decode? bytes).bind t.locate? = some here

theorem LeadsTo.openDatabase (h : t.LeadsTo path here) :
    t.openDatabase path = (t.database here).map fun db => ⟨db, some here, false⟩ := by
  obtain ⟨-, bytes, hl, hb⟩ := h
  simp [FileTree.openDatabase, hl, bind, Except.bind, openFile, hb]

end SimApprove.FileTree

import SimApprove.Proofs.World.Opening

/-!
# Trees with one page aside

`SameBut aside x y t u`: the trees agree but at one location, where they hold a document
or nothing. What does not lead there is the same in both: where a path leads
(`SameBut.resolve`), which programs can be started (`SameBut.program`), what the database
engine opens (`SameBut.openDatabase_eq`), and what a grant leaves (`SameBut.store`).
-/

namespace SimApprove.FileTree

/-- A document, or nothing at all. -/
def IsPage (node? : Option Node) : Prop := node? = none ∨ ∃ bytes, node? = some (.document bytes)

structure SameBut (aside : Location) (x y : Option Node) (t u : FileTree) : Prop where
  root : t.root = u.root
  elsewhere : ∀ there, there ≠ aside → t.node? there = u.node? there
  left : t.node? aside = x
  right : u.node? aside = y
  leftPage : IsPage x
  rightPage : IsPage y

/-- Neither the words of the path nor what the engine makes of them lead to the location. -/
structure Avoids (t : FileTree) (aside : Location) (path : String) : Prop where
  resolve : t.resolve path ≠ .ok aside
  names : ¬ t.Names path aside

variable {aside here there : Location} {x y : Option Node} {t u : FileTree}
  {path directory name : String}

theorem SameBut.symm (h : SameBut aside x y t u) : SameBut aside y x u t :=
  ⟨h.root.symm, fun there hn => (h.elsewhere there hn).symm, h.right, h.left, h.rightPage,
    h.leftPage⟩

theorem IsPage.ne_directory (h : IsPage x) : x ≠ some .directory := by
  rintro rfl
  obtain h | ⟨_, h⟩ := h <;> cases h

theorem IsPage.ne_program (h : IsPage x) (bytes : List UInt8) : x ≠ some (.program bytes) := by
  rintro rfl
  obtain h | ⟨_, h⟩ := h <;> cases h

theorem sameBut_documents (aside : Location) (root : String) (nodes : List (Location × Node))
    (bytes bytes' : List UInt8) :
    SameBut aside (some (.document bytes)) (some (.document bytes'))
      ⟨root, (aside, .document bytes) :: nodes⟩ ⟨root, (aside, .document bytes') :: nodes⟩ where
  root := rfl
  elsewhere there hn := by
    simp only [node?, listed?, List.find?_cons, List.any_cons, decide_eq_false hn.symm]
    rfl
  left := by simp [node?, listed?]
  right := by simp [node?, listed?]
  leftPage := .inr ⟨bytes, rfl⟩
  rightPage := .inr ⟨bytes', rfl⟩

-- ---------------------------------------------------------------------------
-- Paths
-- ---------------------------------------------------------------------------

theorem SameBut.isDirectory_aside (h : SameBut aside x y t u) : t.isDirectory aside = false := by
  rw [isDirectory, h.left]
  exact decide_eq_false h.leftPage.ne_directory

theorem SameBut.isDirectory_eq (h : SameBut aside x y t u) (there : Location) :
    t.isDirectory there = u.isDirectory there := by
  by_cases hn : there = aside
  · rw [hn, h.isDirectory_aside, h.symm.isDirectory_aside]
  · rw [isDirectory, isDirectory, h.elsewhere there hn]

def EndsAt (aside : Location) (r : Except SystemError Location) : Prop :=
  r = .ok aside ∨ r = .error .notFound ∨ r = .error .notADirectory

theorem SameBut.endsAt (h : SameBut aside x y t u) (names : List String) :
    EndsAt aside (if (t.node? aside).isNone then .error .notFound else t.walk aside names) := by
  split
  · exact .inr (.inl rfl)
  cases names with
  | nil => exact .inl rfl
  | cons name rest =>
    rw [FileTree.walk, h.isDirectory_aside]
    exact .inr (.inr rfl)

theorem SameBut.walk_eq_or (h : SameBut aside x y t u) (names : List String) (start : Location) :
    t.walk start names = u.walk start names ∨
      EndsAt aside (t.walk start names) ∧ EndsAt aside (u.walk start names) := by
  induction names generalizing start with
  | nil => exact .inl rfl
  | cons name rest ih =>
    rw [FileTree.walk, FileTree.walk, ← h.isDirectory_eq start]
    split
    · exact .inl rfl
    split
    · exact ih start
    split
    · split
      · exact .inl rfl
      · exact ih _
    split
    · exact .inl rfl
    by_cases hn : start ++ [name] = aside
    · rw [hn]
      exact .inr ⟨h.endsAt rest, h.symm.endsAt rest⟩
    · rw [← h.elsewhere _ hn]
      split
      · exact .inl rfl
      · exact ih _

theorem SameBut.resolve_eq_or (h : SameBut aside x y t u) (path : String) :
    t.resolve path = u.resolve path ∨
      EndsAt aside (t.resolve path) ∧ EndsAt aside (u.resolve path) := by
  unfold FileTree.resolve
  rw [← relative?_eq_of_root h.root path]
  split
  · exact .inl rfl
  split
  · exact .inl rfl
  split
  · exact h.walk_eq_or _ _
  · exact .inl rfl

theorem SameBut.resolve (h : SameBut aside x y t u) (hr : t.resolve path = .ok there)
    (hn : there ≠ aside) : u.resolve path = .ok there := by
  rcases h.resolve_eq_or path with he | ⟨hends, -⟩
  · rw [← he, hr]
  · rw [hr] at hends
    rcases hends with he | he | he <;> cases he
    exact absurd rfl hn

theorem SameBut.has (h : SameBut aside x y t u) (hr : t.resolve path ≠ .ok aside)
    (hhas : t.has path = true) : u.has path = true := by
  obtain ⟨there, ht⟩ := has_eq_true_iff.mp hhas
  refine has_eq_true_iff.mpr ⟨there, h.resolve ht ?_⟩
  rintro rfl
  exact hr ht

theorem SameBut.has_eq (h : SameBut aside x y t u) (hl : t.resolve path ≠ .ok aside)
    (hr : u.resolve path ≠ .ok aside) : t.has path = u.has path :=
  Bool.eq_iff_iff.mpr ⟨h.has hl, h.symm.has hr⟩

-- ---------------------------------------------------------------------------
-- Programs
-- ---------------------------------------------------------------------------

def PassedBy (r : Except SystemError Location) : Prop :=
  ∃ cause, r = .error cause ∧
    (cause = .permissionDenied ∨ cause = .notFound ∨ cause = .notADirectory)

theorem SameBut.programAt_aside (h : SameBut aside x y t u) (hr : t.resolve path = .ok aside) :
    t.programAt path = .error .permissionDenied := by
  simp only [programAt, hr, bind, Except.bind, h.left]
  split
  · exact absurd rfl (h.leftPage.ne_program _)
  · rfl

theorem SameBut.passedBy (h : SameBut aside x y t u) (hends : EndsAt aside (t.resolve path)) :
    PassedBy (t.programAt path) := by
  rcases hends with hr | hr | hr
  · exact ⟨_, h.programAt_aside hr, .inl rfl⟩
  · exact ⟨.notFound, by rw [programAt, hr]; rfl, .inr (.inl rfl)⟩
  · exact ⟨.notADirectory, by rw [programAt, hr]; rfl, .inr (.inr rfl)⟩

theorem SameBut.programAt_eq_or (h : SameBut aside x y t u) (path : String) :
    t.programAt path = u.programAt path ∨
      PassedBy (t.programAt path) ∧ PassedBy (u.programAt path) := by
  rcases h.resolve_eq_or path with he | ⟨hl, hr⟩
  · cases hres : t.resolve path with
    | error cause => exact .inl (by rw [programAt, programAt, ← he, hres]; rfl)
    | ok there =>
      by_cases hn : there = aside
      · subst hn
        rw [h.programAt_aside hres, h.symm.programAt_aside (he ▸ hres)]
        exact .inl rfl
      · refine .inl ?_
        simp only [programAt, ← he, hres, bind, Except.bind, h.elsewhere there hn]
  · exact .inr ⟨h.passedBy hl, h.symm.passedBy hr⟩

theorem PassedBy.search_eq (hp : PassedBy (t.programAt (Text.joinPath directory name)))
    (sofar : SystemError) (rest : List String) : ∃ next,
      t.search name sofar (directory :: rest) = t.search name next rest := by
  obtain ⟨cause, hc, hsoft⟩ := hp
  exact ⟨_, by rw [search, hc]; exact if_pos hsoft⟩

/-- A page is no program, so no program is found or lost by it. What is told of if there is
none can differ. -/
theorem SameBut.search (h : SameBut aside x y t u) {name : String} {directories : List String}
    {sofar : SystemError} (sofar' : SystemError)
    (hs : t.search name sofar directories = .ok there) :
    u.search name sofar' directories = .ok there := by
  induction directories generalizing sofar sofar' with
  | nil => cases hs
  | cons directory rest ih =>
    rcases h.programAt_eq_or (Text.joinPath directory name) with he | ⟨hl, hr⟩
    · rw [FileTree.search] at hs ⊢
      rw [← he]
      split at hs
      · exact hs
      · split at hs
        · rename_i hsoft
          rw [if_pos hsoft]
          exact ih _ hs
        · cases hs
    · obtain ⟨next, hnext⟩ := hl.search_eq sofar rest
      obtain ⟨next', hnext'⟩ := hr.search_eq sofar' rest
      rw [hnext] at hs
      rw [hnext']
      exact ih next' hs

theorem SameBut.program (h : SameBut aside x y t u) {directories : List String} {name : String}
    (hp : t.program directories name = .ok there) : u.program directories name = .ok there := by
  unfold FileTree.program at hp ⊢
  split at hp
  · cases hp
  rename_i hname
  rw [if_neg hname]
  split at hp
  · rename_i hslash
    rw [if_pos hslash]
    rcases h.programAt_eq_or name with he | ⟨⟨_, hc, -⟩, -⟩
    · rw [← he, hp]
    · rw [hc] at hp
      cases hp
  · rename_i hslash
    rw [if_neg hslash]
    exact h.search _ hp

-- ---------------------------------------------------------------------------
-- Databases
-- ---------------------------------------------------------------------------

theorem SameBut.database_eq (h : SameBut aside x y t u) (hne : here ≠ aside) :
    t.database here = u.database here := by
  rw [database, database, h.elsewhere here hne]

theorem SameBut.hasRoom_eq (h : SameBut aside x y t u) (hne : here ≠ aside) :
    t.hasRoom here = u.hasRoom here := by
  simp only [hasRoom, h.elsewhere here hne, h.isDirectory_eq]

theorem SameBut.openFile_eq (h : SameBut aside x y t u) {locator : Consent.Locator}
    (hn : (Text.Utf8.decode? locator.path).bind t.locate? ≠ some aside) :
    t.openFile locator = u.openFile locator := by
  unfold openFile
  rw [← locate?_eq_of_root h.root]
  cases hloc : (Text.Utf8.decode? locator.path).bind t.locate? with
  | none => rfl
  | some here =>
    have hne : here ≠ aside := fun he => hn (he ▸ hloc)
    simp only [h.isDirectory_eq here, h.hasRoom_eq hne, h.database_eq hne]

theorem SameBut.openDatabase_eq (h : SameBut aside x y t u) (hn : ¬ t.Names path aside) :
    t.openDatabase path = u.openDatabase path := by
  unfold openDatabase
  cases hl : Consent.Locator.ofPath path with
  | error cause => rfl
  | ok locator =>
    have hfile := h.openFile_eq fun hloc => hn ⟨locator, hl, hloc⟩
    simp only [bind, Except.bind, hfile]

theorem SameBut.setDatabase (h : SameBut aside x y t u) {old : Consent.Database}
    (hd : t.node? here = some (.database old)) (hne : here ≠ aside) (new : Consent.Database) :
    SameBut aside x y (t.setDatabase here new) (u.setDatabase here new) where
  root := h.root
  elsewhere there hn := by
    by_cases hh : there = here
    · have hd' := (h.elsewhere here hne).symm.trans hd
      rw [hh, node?_setDatabase hd, node?_setDatabase hd']
    · rw [node?_setDatabase_of_ne hh, node?_setDatabase_of_ne hh, h.elsewhere there hn]
  left := by rw [node?_setDatabase_of_ne hne.symm, h.left]
  right := by rw [node?_setDatabase_of_ne hne.symm, h.right]
  leftPage := h.leftPage
  rightPage := h.rightPage

theorem SameBut.make (h : SameBut aside x y t u) (hr : t.hasRoom here = true)
    (hne : here ≠ aside) : SameBut aside x y (t.make here) (u.make here) where
  root := h.root
  elsewhere there hn := by
    rw [node?_make hr, node?_make (h.hasRoom_eq hne ▸ hr), h.elsewhere there hn]
  left := by rw [node?_make hr, if_neg hne.symm, h.left]
  right := by rw [node?_make (h.hasRoom_eq hne ▸ hr), if_neg hne.symm, h.right]
  leftPage := h.leftPage
  rightPage := h.rightPage

theorem sameBut_make (hr : t.hasRoom here = true) :
    SameBut here none (some (.document [])) t (t.make here) where
  root := rfl
  elsewhere there hn := by rw [node?_make hr, if_neg hn]
  left := by
    simp only [hasRoom, Bool.and_eq_true, Option.isNone_iff_eq_none] at hr
    exact hr.1.1
  right := by rw [node?_make hr, if_pos rfl]
  leftPage := .inl rfl
  rightPage := .inr ⟨_, rfl⟩

theorem SameBut.opened {d : OpenDatabase} (h : SameBut aside x y t u) (ho : t.Opened path d)
    (hn : ¬ t.Names path aside) : SameBut aside x y (t.opened d) (u.opened d) := by
  have hne : ∀ {here}, t.Names path here → here ≠ aside := fun hnames he => hn (he ▸ hnames)
  cases ho with
  | temporary => exact h
  | found hnames hd hf =>
    rw [opened_of_found hd hf, opened_of_found (h.database_eq (hne hnames) ▸ hd) hf]
    exact h
  | made _ hnames hr _ hf =>
    rw [opened_of_made hr hf, opened_of_made (h.hasRoom_eq (hne hnames) ▸ hr) hf]
    exact h.make hr (hne hnames)

theorem Avoids.setDatabase {old : Consent.Database} (h : t.Avoids aside path)
    (hd : t.node? here = some (.database old)) (new : Consent.Database) :
    (t.setDatabase here new).Avoids aside path where
  resolve := by
    rw [← (agreeBut_setDatabase hd new).resolve_eq]
    exact h.resolve
  names := by
    have hroot : (t.setDatabase here new).root = t.root := rfl
    exact mt (names_iff_of_root hroot).mp h.names

theorem Avoids.make (h : t.Avoids aside path) (hr : t.hasRoom here = true) (hne : here ≠ aside) :
    (t.make here).Avoids aside path where
  resolve hres := h.resolve ((sameBut_make hr).symm.resolve hres hne.symm)
  names := by
    have hroot : (t.make here).root = t.root := rfl
    exact mt (names_iff_of_root hroot).mp h.names

end SimApprove.FileTree

import SimApprove.Proofs.Text.Utf8
import SimApprove.Proofs.World.FileTree

/-!
# Which file is opened

Two parts of the world read the same path: `FileTree.resolve` walks it as it is, the
database engine makes a locator of it first. `openDatabase_eq_ok` says where the engine
finds what it opens, and `resolve_of_isPlain` that for a path which the engine takes as
it is this is the file that the path leads to.
-/

namespace SimApprove

def Consent.Locator.IsPlain (path : String) : Prop := ¬ "file:".toList <+: path.toList

instance (path : String) : Decidable (Consent.Locator.IsPlain path) :=
  inferInstanceAs (Decidable (¬ _))

theorem Consent.Locator.ofPath_of_isPlain {path : String} (hp : IsPlain path) :
    ofPath path = if path.toUTF8.toList = [] ∨ path.toUTF8.toList = memoryPath then
      .ok ⟨path.toUTF8.toList, .inMemory, false⟩
    else .ok ⟨path.toUTF8.toList, .readWrite, false⟩ := by
  unfold ofPath
  split
  · rename_i cs hcs
    exact absurd ⟨cs, by rw [hcs]; rfl⟩ hp
  · rfl

theorem Consent.Locator.path_of_isPlain {path : String} {locator : Consent.Locator}
    (hp : IsPlain path) (h : ofPath path = .ok locator) : locator.path = path.toUTF8.toList := by
  rw [ofPath_of_isPlain hp] at h
  split at h <;> cases h <;> rfl

namespace FileTree

variable {t : FileTree} {path : String} {here there : Location} {d : OpenDatabase}

/-- A walk along nodes that exist leads where the names alone lead. -/
theorem locateFrom_of_walk {names : List String} {start : Location}
    (hw : t.walk start names = .ok there) (hl : t.locateFrom start names = some here) :
    here = there := by
  induction names generalizing start with
  | nil =>
    simp only [walk, Except.ok.injEq] at hw
    simp only [locateFrom, Option.ite_none_right_eq_some, Option.some.injEq] at hl
    rw [← hl.2, hw]
  | cons name rest ih =>
    rw [walk] at hw
    rw [locateFrom] at hl
    split at hw
    · cases hw
    split at hw
    · rename_i hname
      rw [if_pos hname] at hl
      exact ih hw hl
    rename_i hname
    rw [if_neg hname] at hl
    split at hw
    · rename_i hup
      rw [if_pos hup] at hl
      split at hw
      · cases hw
      · rename_i hroot
        rw [if_neg hroot] at hl
        exact ih hw hl
    rename_i hup
    rw [if_neg hup] at hl
    split at hw
    · cases hw
    split at hw
    · cases hw
    split at hl
    · exact ih hw hl
    · cases hl

theorem locate?_of_resolve (hr : t.resolve path = .ok there) (hl : t.locate? path = some here) :
    here = there := by
  unfold resolve at hr
  split at hr
  · cases hr
  split at hr
  · cases hr
  split at hr
  · rename_i cs hcs
    simp only [locate?, hcs] at hl
    exact locateFrom_of_walk hr hl
  · cases hr

-- ---------------------------------------------------------------------------
-- Opening
-- ---------------------------------------------------------------------------

def Names (t : FileTree) (path : String) (here : Location) : Prop :=
  ∃ locator, Consent.Locator.ofPath path = .ok locator ∧
    (Text.Utf8.decode? locator.path).bind t.locate? = some here

theorem names_iff_of_root {u : FileTree} (h : t.root = u.root) :
    t.Names path here ↔ u.Names path here := by
  rw [Names, Names, locate?_eq_of_root h]

/-- A database that the engine opens by a path: a new one in memory, one in a file, or one
that it makes a file for. -/
inductive Opened (t : FileTree) (path : String) : OpenDatabase → Prop
  | temporary : Opened t path .temporary
  | found {here : Location} {d : OpenDatabase} (hn : t.Names path here)
      (hd : t.database here = .ok d.content) (hf : d.file = some here) : Opened t path d
  | made {here : Location} {d : OpenDatabase} (hp : ¬ Consent.Locator.IsPlain path)
      (hn : t.Names path here) (hr : t.hasRoom here = true) (hc : d.content = .withoutTable)
      (hf : d.file = some here) : Opened t path d

theorem opened_of_openFile {locator : Consent.Locator}
    (hl : Consent.Locator.ofPath path = .ok locator) (h : t.openFile locator = .ok d) :
    t.Opened path d := by
  unfold openFile at h
  split at h
  · cases h
  rename_i here hloc
  have hn : t.Names path here := ⟨locator, hl, hloc⟩
  simp only at h
  split at h
  · cases h
  split at h
  · rename_i hmake
    simp only [Bool.and_eq_true, decide_eq_true_eq] at hmake
    cases h
    refine .made (fun hp => ?_) hn hmake.2 rfl rfl
    -- a path that is taken as it is says nothing of new files
    rw [Consent.Locator.ofPath_of_isPlain hp] at hl
    split at hl <;> cases hl <;> exact nomatch hmake.1
  · obtain ⟨content, hd, rfl⟩ := map_eq_ok_iff.mp h
    exact .found hn hd rfl

theorem opened_of_openDatabase (h : t.openDatabase path = .ok d) : t.Opened path d := by
  obtain ⟨locator, hl, h⟩ := bind_eq_ok_iff.mp h
  split at h
  · cases h
    exact .temporary
  · exact opened_of_openFile hl h

/-- What opening a database leaves: the same tree, or one with a new and empty file. -/
inductive Kept (t : FileTree) (path : String) : FileTree → Prop
  | same : Kept t path t
  | made {here : Location} (hp : ¬ Consent.Locator.IsPlain path) (hn : t.Names path here)
      (hr : t.hasRoom here = true) : Kept t path (t.make here)

theorem opened_of_found (hd : t.database here = .ok d.content) (hf : d.file = some here) :
    t.opened d = t := by
  simp only [opened, hf, isNone_node?_of_database hd, Bool.false_eq_true, if_false]

theorem opened_of_made (hr : t.hasRoom here = true) (hf : d.file = some here) :
    t.opened d = t.make here := by
  simp only [hasRoom, Bool.and_eq_true] at hr
  simp only [opened, hf, hr.1.1, if_true]

theorem Opened.kept (h : t.Opened path d) : t.Kept path (t.opened d) := by
  cases h with
  | temporary => exact .same
  | found hn hd hf =>
    rw [opened_of_found hd hf]
    exact .same
  | made hp hn hr hc hf =>
    rw [opened_of_made hr hf]
    exact .made hp hn hr

theorem Opened.of_grant (h : t.Opened path d) {evaluate : Consent.Evaluation} {service app : String}
    {content : Consent.Database} (hg : d.grant evaluate service app = .ok content) :
    ∃ here, t.Names path here ∧ t.database here = .ok d.content ∧ d.file = some here := by
  cases h with
  | temporary => simp [OpenDatabase.grant, OpenDatabase.temporary, Consent.Database.grant,
      Consent.Database.table?] at hg
  | found hn hd hf => exact ⟨_, hn, hd, hf⟩
  | made _ _ _ hc => simp [OpenDatabase.grant, hc, Consent.Database.grant,
      Consent.Database.table?] at hg

theorem opened_of_grant (h : t.openDatabase path = .ok d) {evaluate : Consent.Evaluation}
    {service app : String} {content : Consent.Database}
    (hg : d.grant evaluate service app = .ok content) : t.opened d = t := by
  obtain ⟨here, -, hd, hf⟩ := (opened_of_openDatabase h).of_grant hg
  exact opened_of_found hd hf

theorem resolve_of_isPlain (hp : Consent.Locator.IsPlain path) (hn : t.Names path here)
    (hhas : t.has path = true) : t.resolve path = .ok here := by
  obtain ⟨locator, hl, hloc⟩ := hn
  obtain ⟨there, hr⟩ := has_eq_true_iff.mp hhas
  rw [Consent.Locator.path_of_isPlain hp hl, Text.Utf8.decode?_toUTF8] at hloc
  rw [hr, locate?_of_resolve hr hloc]

theorem leadsTo_of_isPlain (hp : Consent.Locator.IsPlain path) (hm : path ≠ ":memory:")
    (hl : (t.locate? path).isSome) (hr : t.resolve path = .ok here) : t.LeadsTo path here := by
  have hbytes : ∀ {text : String}, path.toUTF8.toList = text.toUTF8.toList → path = text := by
    intro text ht
    have hd := congrArg Text.Utf8.decode? ht
    rw [Text.Utf8.decode?_toUTF8, Text.Utf8.decode?_toUTF8] at hd
    exact Option.some.inj hd
  have hempty : path ≠ "" := by
    rintro rfl
    simp [resolve] at hr
  obtain ⟨there, hthere⟩ := Option.isSome_iff_exists.mp hl
  obtain rfl := locate?_of_resolve hr hthere
  refine ⟨has_eq_true_iff.mpr ⟨_, hr⟩, path.toUTF8.toList, ?_, ?_⟩
  · rw [Consent.Locator.ofPath_of_isPlain hp, if_neg]
    rintro (h | h)
    · exact hempty (hbytes (h.trans (by simp)))
    · exact hm (hbytes h)
  · rw [Text.Utf8.decode?_toUTF8]
    exact hthere

end FileTree

theorem OpenDatabase.grant_eq_ok {d : OpenDatabase} {content : Consent.Database}
    {evaluate : Consent.Evaluation} {service app : String}
    (h : d.grant evaluate service app = .ok content) :
    d.content.grant evaluate service app = .ok content := by
  unfold OpenDatabase.grant at h
  split at h
  · cases h
  · rename_i content' hc
    split at h <;> cases h
    exact hc

end SimApprove

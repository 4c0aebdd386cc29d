import Mathlib.Data.List.Basic
import SimApprove.Proofs.Consent.Schema
import SimApprove.Proofs.Consent.Store

/-!
# The effect of a grant

A grant of any service in a table with the key of grants (`Table.IsKeyed`) is refused
exactly if a column that it names is missing or another one would be left without a value
that it needs. Else its row takes the place of the rows with its key: `grant_effect`.
-/

namespace SimApprove

namespace Consent

/-- What a grant leaves to the defaults in the key is not null. -/
structure Table.IsKeyed (t : Table) (evaluate : Evaluation) : Prop
    extends (Schema.ofTable t).Typed t where
  extended : ∀ c ∈ t.columns, t.inKey c = true →
    (∃ name ∈ (Schema.ofTable t).names, sameName name c.name = true) ∨ c.fallback evaluate ≠ .null

def Table.freshRow (t : Table) (evaluate : Evaluation) (service app : String) : Row :=
  (Schema.ofTable t).row t evaluate service app

/-- The rows without those that have the key of the fresh one, and that row. -/
def Table.regranted (t : Table) (evaluate : Evaluation) (service app : String) : Table :=
  { t with rows :=
      t.rows.filter (fun row => t.keyOf row ≠ t.keyOf (t.freshRow evaluate service app)) ++
        [t.freshRow evaluate service app] }

namespace Table.IsKeyed

variable {t : Table} {evaluate : Evaluation} {service app : String}

theorem replaceRow_eq (h : t.IsKeyed evaluate) (service app : String) :
    t.replaceRow (t.freshRow evaluate service app) = t.regranted evaluate service app := by
  have hnull : .null ∉ t.keyOf (t.freshRow evaluate service app) :=
    Schema.null_notMem_keyOf_row h.extended
  rw [regranted, ← rows_replaceRow (key_ne_nil h.keyed) hnull]
  rfl

theorem grant_eq_ok_iff (h : t.IsKeyed evaluate) {content : Database} :
    (Database.withTable t).grant evaluate service app = .ok content ↔
      t.Takes (Schema.ofTable t) evaluate ∧
        content = .withTable (t.regranted evaluate service app) := by
  rw [h.toTyped.grant_eq_ok_iff rfl, ← h.replaceRow_eq, freshRow]

end Table.IsKeyed

end Consent

-- ---------------------------------------------------------------------------
-- A grant at a path
-- ---------------------------------------------------------------------------

namespace ConsentStore

open Consent FileTree

variable {path : String} {here : Location} {t : Table} {s : Session World}

theorem run_grant_at (hp : s.state.files.LeadsTo path here)
    (hd : s.state.files.database here = .ok (.withTable t)) (service app : String) :
    (grant path service app).run s =
      match (Database.withTable t).grant s.state.evaluate service app with
      | .error cause => (.error (.consentDatabase path (.engine cause)),
          ⟨s.state, s.log ++ [writing path service app]⟩)
      | .ok content => (.ok (),
          ⟨{ s.state with files := s.state.files.setDatabase here content },
            s.log ++ [writing path service app]⟩) := by
  have ho : s.state.files.openDatabase path = .ok ⟨.withTable t, some here, false⟩ := by
    rw [hp.openDatabase, hd]
    rfl
  have hgrant := OpenDatabase.grant_of_writable (.withTable t) (some here) s.state.evaluate
    service app
  cases hg : (Database.withTable t).grant s.state.evaluate service app with
  | error cause =>
    rw [run_grant (.unwritten hp.1 ho (hgrant.trans hg)), opened_of_found hd rfl]
  | ok content => rw [run_grant (.written hp.1 ho (hgrant.trans hg)), store]

/-- A grant in the database that a path leads to: when it succeeds, and what it leaves then. -/
theorem grant_effect (ht : t.IsKeyed s.state.evaluate) (hp : s.state.files.LeadsTo path here)
    (hd : s.state.files.database here = .ok (.withTable t)) (service app : String) :
    let done := (grant path service app).run s
    (done.1 = .ok () ↔ t.Takes (Schema.ofTable t) s.state.evaluate) ∧
      (done.1 = .ok () → done.2.state = { s.state with files := done.2.state.files } ∧
        done.2.state.files.database here =
          .ok (.withTable (t.regranted s.state.evaluate service app)) ∧
        ∀ there ≠ here, done.2.state.files.node? there = s.state.files.node? there) := by
  intro done
  have hdone : done = _ := run_grant_at hp hd service app
  cases hg : (Database.withTable t).grant s.state.evaluate service app with
  | error cause =>
    have hn : ¬ t.Takes (Schema.ofTable t) s.state.evaluate := fun htakes => by
      rw [ht.grant_eq_ok_iff.mpr ⟨htakes, rfl⟩] at hg
      cases hg
    rw [hg] at hdone
    simp [hdone, hn]
  | ok content =>
    obtain ⟨htakes, rfl⟩ := ht.grant_eq_ok_iff.mp hg
    rw [hg] at hdone
    simp only [hdone, htakes, true_and, forall_const]
    exact ⟨database_setDatabase (node?_of_database hd), fun _ hne => node?_setDatabase_of_ne hne⟩

/-- A key with a fourth part that the statement leaves to its default, and columns that turn
their defaults into reals: of two rows for the app the grant replaces one. -/
theorem grant_effect_of_extended_key :
    let one : Value := .real (.ofInt 1)
    let oneAndAHalf : Value := .real (.ofMagnitude false (Decimal.magnitude 15 (-1)))
    let row (auth reason : Int) (kind : String) (modified : Int) : Row :=
      [.text "mic", .text "a", .integer 0, .integer auth, .integer reason, .integer 1,
        .text kind, one, oneAndAHalf, .integer modified]
    let t : Table := {
      name := "access"
      columns := [⟨"service", "TEXT", true, none⟩, ⟨"client", "TEXT", true, none⟩,
        ⟨"client_type", "INTEGER", true, none⟩, ⟨"auth_value", "INTEGER", true, none⟩,
        ⟨"auth_reason", "INTEGER", true, none⟩, ⟨"auth_version", "INTEGER", true, none⟩,
        ⟨"object", "TEXT", true, some (.constant (.text "UNUSED"))⟩,
        ⟨"weight", "REAL", true, some (.constant (.integer 1))⟩,
        ⟨"score", "NUMERIC", true, some (.constant (.text "1.5"))⟩,
        ⟨"modified", "INTEGER", true, some (.expression "(CAST(strftime('%s','now') AS INTEGER))")⟩]
      key := ["service", "client", "client_type", "object"]
      rows := [row 0 1 "UNUSED" 5, row 0 1 "other" 5] }
    let here := ["home", "Library", "TCC", "TCC.db"]
    let files : FileTree := ⟨"/s", [(here, .database (.withTable t))]⟩
    let w : World :=
      { files, respond := fun _ _ => .hangs, evaluate := fun _ => .text "1700000000" }
    let done := (grant "home/Library/TCC/TCC.db" "mic" "a").run ⟨w, []⟩
    t.IsKeyed w.evaluate ∧ files.LeadsTo "home/Library/TCC/TCC.db" here ∧ done.1 = .ok () ∧
      done.2.state.files.database here = .ok (.withTable
        { t with rows := [row 0 1 "other" 5, row 2 2 "UNUSED" 1700000000] }) := by
  intro one oneAndAHalf row t here files w done
  have ht : t.IsKeyed w.evaluate := ⟨⟨by decide +kernel, by decide +kernel, by decide +kernel,
    by unfold Table.IsKeyedBySubject; decide +kernel⟩, by decide +kernel⟩
  have hp : files.LeadsTo "home/Library/TCC/TCC.db" here :=
    leadsTo_of_isPlain (by unfold Locator.IsPlain; decide +kernel) (by decide) (by decide +kernel)
      (by decide +kernel)
  have hd : files.database here = .ok (.withTable t) := rfl
  obtain ⟨hiff, heffect⟩ := grant_effect (s := ⟨w, []⟩) ht hp hd "mic" "a"
  have hok : done.1 = .ok () := hiff.mpr ⟨by decide +kernel, by decide +kernel⟩
  obtain ⟨-, hrows, -⟩ := heffect hok
  exact ⟨ht, hp, hok, hrows.trans (by decide +kernel)⟩

/-- Of a path that starts with `file:` the engine takes the rest: a grant finds no database,
though there is one at the path that takes the row. -/
theorem grant_misses_locator :
    let path := "file:home/Library/TCC/TCC.db"
    let here := ["file:home", "Library", "TCC", "TCC.db"]
    let t := Schema.legacy.plainTable []
    let files : FileTree := ⟨"/s", [(here, .database (.withTable t))]⟩
    let w : World := { files, respond := fun _ _ => .hangs }
    files.resolve path = .ok here ∧
      files.database here = .ok (.withTable t) ∧
      t.IsKeyed w.evaluate ∧ t.Takes (Schema.ofTable t) w.evaluate ∧
      ((grant path cameraService "a").run ⟨w, []⟩).1 =
        .error (.consentDatabase path (.engine .cannotOpen)) := by
  intro path here t files w
  have ht : t.IsKeyed w.evaluate := ⟨⟨by decide +kernel, by decide +kernel, by decide +kernel,
    by unfold Table.IsKeyedBySubject; decide +kernel⟩, by decide +kernel⟩
  exact ⟨by decide +kernel, rfl, ht, ⟨by decide +kernel, by decide +kernel⟩, by decide +kernel⟩

end ConsentStore

end SimApprove

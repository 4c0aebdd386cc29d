import Mathlib.Data.List.Basic
import SimApprove.Proofs.Consent.Store
import SimApprove.Proofs.World.Opening

/-!
# Grants that fail

`grant_contract` says what a grant in the database at a path leaves behind when it fails:
all files that there were, a fault with the path, and the announcement of the write if the
tables could be read, whether or not the statement after it was refused.
-/

namespace SimApprove

-- ---------------------------------------------------------------------------
-- What can be read
-- ---------------------------------------------------------------------------

namespace FileTree

variable {t : FileTree} {path : String} {here : Location}

/-- The path is the path of something, and the engine can read the tables of what it opens
by it. -/
def IsReadable (t : FileTree) (path : String) : Prop :=
  t.has path = true ∧ ∃ d, t.openDatabase path = .ok d

end FileTree

-- ---------------------------------------------------------------------------
-- What a grant leaves behind
-- ---------------------------------------------------------------------------

namespace ConsentStore

variable {path service app : String} {evaluate : Consent.Evaluation} {files after : FileTree}
  {events : List Log.Event} {result : Except ClientError Unit}

theorem Outcome.events_eq (h : Outcome path service app evaluate files events result after) :
    (files.IsReadable path ∧ events = [writing path service app]) ∨
      (¬ files.IsReadable path ∧ events = [] ∧ ∃ e, result = .error e) := by
  cases h with
  | missing hf => exact .inr ⟨fun hr => by simp [hr.1] at hf, rfl, _, rfl⟩
  | unopened _ ho =>
    refine .inr ⟨?_, rfl, _, rfl⟩
    rintro ⟨-, d, hd⟩
    rw [ho] at hd
    cases hd
  | unwritten hf ho | written hf ho => exact .inl ⟨⟨hf, _, ho⟩, rfl⟩

end ConsentStore

end SimApprove

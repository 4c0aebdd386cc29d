import SimApprove.Error
import SimApprove.Permission

/-!
# Approvals

`ApproveCommand` is what the user asks for: an app, the permissions as listed,
and a scheme if one was given. `Approval` is what a client receives: the same
app and scheme with the permissions as a set. `toApproval` refuses the one
request that cannot be carried out: `url` without a scheme.
-/

namespace SimApprove

structure ApproveCommand where
  bundleId : String
  permissions : List Permission
  scheme : Option String
  deriving DecidableEq, Repr

structure Approval where
  bundleId : String
  permissions : PermissionSet
  scheme : Option String
  deriving DecidableEq, Repr

/-- A scheme that is present but empty is of no use. -/
def Approval.usableScheme? (a : Approval) : Option String := a.scheme.filter (· ≠ "")

theorem Approval.usableScheme?_eq {a : Approval} {scheme : String}
    (h : a.usableScheme? = some scheme) :
    a.scheme = some scheme ∧ scheme ≠ "" := by
  simpa [Approval.usableScheme?, Option.filter_eq_some_iff] using h

/-- What a client may rely on: a url permission comes with a scheme. -/
def Approval.Complete (a : Approval) : Prop :=
  a.permissions.contains .url = true → ∃ scheme, a.scheme = some scheme ∧ scheme ≠ ""

def Approval.schemeText (a : Approval) : String := a.scheme.getD "-"

namespace ApproveCommand

def name : String := "approve"

def description : String := "Approve permissions for an app"

def request (c : ApproveCommand) : Approval :=
  ⟨c.bundleId, PermissionSet.ofList c.permissions, c.scheme⟩

def lacksScheme (c : ApproveCommand) : Bool :=
  c.request.permissions.contains .url && (c.scheme.getD "").isEmpty

def toApproval (c : ApproveCommand) : Except CommandError Approval :=
  if c.lacksScheme then .error .missingScheme else .ok c.request

theorem lacksScheme_iff {c : ApproveCommand} :
    c.lacksScheme = true ↔ .url ∈ c.permissions ∧ (c.scheme = none ∨ c.scheme = some "") := by
  simp only [lacksScheme, request, Bool.and_eq_true, PermissionSet.contains_ofList_iff,
    String.isEmpty_iff]
  cases c.scheme <;> simp

theorem complete_request {c : ApproveCommand} (h : c.lacksScheme = false) :
    c.request.Complete := by
  intro hurl
  have hn : ¬ (c.scheme = none ∨ c.scheme = some "") := fun hs => by
    have := lacksScheme_iff.mpr ⟨PermissionSet.contains_ofList_iff.mp hurl, hs⟩
    simp [h] at this
  cases hc : c.scheme with
  | none => exact absurd (.inl hc) hn
  | some scheme => exact ⟨scheme, hc, fun he => hn (.inr (he ▸ hc))⟩

end ApproveCommand

end SimApprove

/-!
# Permissions

The four capabilities that an app can be granted, with their names on the
command line. A `PermissionSet` is what a list of permissions amounts to:
`ofList_eq_ofList_iff` says that two lists give the same set exactly if they
have the same members, and `toList` lists the members in the fixed order of
`Permission.all`, each once (`sorted_toList`).
-/

namespace SimApprove

inductive Permission
  | photos
  | camera
  | contacts
  | url
  deriving DecidableEq, Repr

namespace Permission

/-- Every permission, in the order in which they are granted. -/
def all : List Permission := [photos, camera, contacts, url]

def name : Permission → String
  | photos => "photos"
  | camera => "camera"
  | contacts => "contacts"
  | url => "url"

def rank : Permission → Nat
  | photos => 0
  | camera => 1
  | contacts => 2
  | url => 3

/-- Only the exact name is recognised. -/
def ofName? (s : String) : Option Permission := all.find? (·.name = s)

def ofNameIgnoringCase? (s : String) : Option Permission :=
  all.find? fun p => p.name.toList = s.toList.map Char.toLower

theorem mem_all (p : Permission) : p ∈ all := by cases p <;> decide

theorem ofName?_name (p : Permission) : ofName? p.name = some p := by cases p <;> decide

theorem name_of_ofName? {s : String} {p : Permission} (h : ofName? s = some p) : p.name = s := by
  simpa using List.find?_some h

theorem name_injective {p q : Permission} (h : p.name = q.name) : p = q := by
  have := ofName?_name p
  rw [h, ofName?_name] at this
  exact (Option.some.inj this).symm

end Permission

structure PermissionSet where
  photos : Bool
  camera : Bool
  contacts : Bool
  url : Bool
  deriving DecidableEq, Repr

namespace PermissionSet

def contains (s : PermissionSet) : Permission → Bool
  | .photos => s.photos
  | .camera => s.camera
  | .contacts => s.contacts
  | .url => s.url

def ofList (ps : List Permission) : PermissionSet where
  photos := ps.contains .photos
  camera := ps.contains .camera
  contacts := ps.contains .contacts
  url := ps.contains .url

def toList (s : PermissionSet) : List Permission := Permission.all.filter s.contains

def names (s : PermissionSet) : String := ",".intercalate (s.toList.map Permission.name)

@[ext] theorem ext {s t : PermissionSet} (h : ∀ p, s.contains p = t.contains p) : s = t := by
  have h1 := h .photos
  have h2 := h .camera
  have h3 := h .contacts
  have h4 := h .url
  cases s; cases t
  simp_all [contains]

theorem contains_ofList (ps : List Permission) (p : Permission) :
    (ofList ps).contains p = ps.contains p := by cases p <;> rfl

theorem mem_toList {s : PermissionSet} {p : Permission} : p ∈ s.toList ↔ s.contains p = true := by
  simp [toList, Permission.mem_all]

theorem sorted_toList (s : PermissionSet) : s.toList.Pairwise (·.rank < ·.rank) := by
  have h : Permission.all.Pairwise (·.rank < ·.rank) := by decide
  exact h.filter s.contains

theorem nodup_toList (s : PermissionSet) : s.toList.Nodup := by
  refine s.sorted_toList.imp ?_
  rintro p q h rfl
  exact Nat.lt_irrefl _ h

theorem contains_ofList_iff {ps : List Permission} {p : Permission} :
    (ofList ps).contains p = true ↔ p ∈ ps := by
  rw [contains_ofList, List.contains_iff_mem]

theorem ofList_eq_ofList_iff {ps qs : List Permission} :
    ofList ps = ofList qs ↔ ∀ p, p ∈ ps ↔ p ∈ qs := by
  constructor
  · intro h p
    rw [← contains_ofList_iff, h, contains_ofList_iff]
  · intro h
    ext p
    rw [Bool.eq_iff_iff, contains_ofList_iff, contains_ofList_iff]
    exact h p

end PermissionSet

end SimApprove

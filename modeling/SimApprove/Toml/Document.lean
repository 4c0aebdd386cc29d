import SimApprove.Toml.Builder
import SimApprove.Toml.Scalar
import SimApprove.Toml.Statement

/-!
# Documents

`parse` gives the table of a whole document, or the first fault. How the
statements of a document follow from its lexemes is settled before any of them
is looked into; then each is read in turn: first its key, then its value, then
its place among the tables so far.
-/

namespace SimApprove.Toml

/-- How many parts a key may have. -/
def keyLimit : Nat := 80

def readKey (key : WrittenKey) : Except Fault (KeyPath × String) :=
  match key.mapM id with
  | none => .error .illFormed
  | some parts =>
    if keyLimit < parts.length then .error .keyTooLong
    else
      match parts.reverse with
      | [] => .error .illFormed
      | last :: before => .ok (before.reverse, last)

def orIllFormed {α : Type} : Option α → Except Fault α
  | some a => .ok a
  | none => .error .illFormed

mutual
def WrittenValue.read : WrittenValue → Except Fault Value
  | .scalar text => orIllFormed (readScalar? text)
  | .quoted text => orIllFormed (text.map .string)
  | .array items => (readItems items).map .array
  | .table entries => (readEntries entries []).map fun entries => .table (draftEntries entries)
def readItems : List WrittenValue → Except Fault (List Value)
  | [] => .ok []
  | v :: rest => do
    let v ← v.read
    (readItems rest).map (v :: ·)
def readEntries : List (WrittenKey × WrittenValue) → DraftTable → Except Fault DraftTable
  | [], table => .ok table
  | (key, v) :: rest, table => do
    let (path, key) ← readKey key
    let v ← v.read
    readEntries rest (← addValue path key v table)
end

structure Section where
  key : WrittenKey
  isRepeated : Bool
  entries : List (WrittenKey × WrittenValue)

def sections : List Statement → List (WrittenKey × WrittenValue) × List Section
  | [] => ([], [])
  | .entry key v :: rest =>
    let (entries, more) := sections rest
    ((key, v) :: entries, more)
  | .header key :: rest =>
    let (entries, more) := sections rest
    ([], ⟨key, false, entries⟩ :: more)
  | .repeatedHeader key :: rest =>
    let (entries, more) := sections rest
    ([], ⟨key, true, entries⟩ :: more)

/-- Whether a repeated header fits is found out after its entries. -/
def Section.addTo (s : Section) (root : DraftTable) : Except Fault DraftTable := do
  let (path, key) ← readKey s.key
  if s.isRepeated then addRepeated path key (← readEntries s.entries []) root
  else addTable path key (readEntries s.entries) root

def build (statements : List Statement) : Except Fault Table := do
  let (entries, sections) := sections statements
  let root ← readEntries entries []
  let root ← sections.foldlM (fun root s => s.addTo root) root
  .ok (draftEntries root)

def parse (document : String) : Except Fault Table := do
  build (← orIllFormed ((lexemes? document).bind Statement.ofLexemes?))

end SimApprove.Toml

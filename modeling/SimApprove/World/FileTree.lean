import SimApprove.Consent.Database

/-!
# Files

A directory tree as far as a run can see it: everything below one root
directory, in which relative paths start. A `Location` is a path without detours,
given by its names from the root. `FileTree.resolve` follows a path step by step:
each name on the way must exist, each but the last must be a directory, and
nothing outside the root exists.
-/

namespace SimApprove

abbrev Location := List String

def Location.ofPath (path : String) : Location :=
  (Text.pathParts path).filter fun name => name ≠ "" ∧ name ≠ "."

inductive Node
  | directory
  /-- A file that can be run. -/
  | program (bytes : List UInt8)
  | document (bytes : List UInt8)
  | database (content : Consent.Database)
  deriving DecidableEq, Repr

structure FileTree where
  /-- The root directory as absolute paths write it. -/
  root : String
  /-- Directories on the way to a node exist without being listed. -/
  nodes : List (Location × Node)
  deriving DecidableEq, Repr

namespace FileTree

def listed? (t : FileTree) (here : Location) : Option Node :=
  (t.nodes.find? fun entry => entry.1 = here).map Prod.snd

def node? (t : FileTree) (here : Location) : Option Node :=
  match t.listed? here with
  | some node => some node
  | none =>
    if here = [] ∨ t.nodes.any (fun entry => here.isPrefixOf entry.1) then some .directory else none

def isDirectory (t : FileTree) (here : Location) : Bool := t.node? here = some .directory

/-- The longest name that a directory can hold, in bytes. -/
def nameLimit : Nat := 255

def walk (t : FileTree) (here : Location) : List String → Except SystemError Location
  | [] => .ok here
  | name :: rest =>
    if !t.isDirectory here then .error .notADirectory
    else if name = "" ∨ name = "." then t.walk here rest
    else if name = ".." then
      if here = [] then .error .notFound else t.walk here.dropLast rest
    else if nameLimit < name.utf8ByteSize then .error .nameTooLong
    else if (t.node? (here ++ [name])).isNone then .error .notFound
    else t.walk (here ++ [name]) rest

def relative? (t : FileTree) (path : String) : Option (List Char) :=
  let root := t.root.toList
  let cs := path.toList
  if cs = root then some []
  else if (root ++ ['/']).isPrefixOf cs then some (cs.drop (root.length + 1))
  else if cs.head? = some '/' then none
  else some cs

def pathLimit : Nat := 4095

def resolve (t : FileTree) (path : String) : Except SystemError Location :=
  if path = "" ∨ path.toList.contains '\x00' then .error .notFound
  else if pathLimit < path.utf8ByteSize then .error .nameTooLong
  else
    match t.relative? path with
    | some cs => t.walk [] ((Text.split '/' cs).map String.ofList)
    | none => .error .notFound

def has (t : FileTree) (path : String) : Bool :=
  match t.resolve path with
  | .ok _ => true
  | .error _ => false

theorem has_eq_false_iff {t : FileTree} {path : String} :
    t.has path = false ↔ ∃ cause, t.resolve path = .error cause := by
  unfold has
  cases t.resolve path <;> simp

theorem has_eq_true_iff {t : FileTree} {path : String} :
    t.has path = true ↔ ∃ here, t.resolve path = .ok here := by
  unfold has
  cases t.resolve path <;> simp

/-- The bytes of a file. Of a database only the first ones are known. -/
def read (t : FileTree) (path : String) : Except SystemError (List UInt8) := do
  let here ← t.resolve path
  match t.node? here with
  | some (.document bytes) | some (.program bytes) => .ok bytes
  | some (.database _) => .ok Consent.Database.header
  | some .directory => .error .isADirectory
  | none => .error .notFound

/-! ## Databases -/

def fullSize (t : FileTree) (here : Location) : Nat :=
  here.foldl (fun size name => size + 1 + name.utf8ByteSize) t.root.utf8ByteSize

def fullPathLimit : Nat := 511

/-- The longest full path of a database: files beside it need a few more bytes. -/
def databasePathLimit : Nat := 504

/-- Follows names without asking whether they exist: a detour cancels the name
before it. Paths that become too long lead nowhere. -/
def locateFrom (t : FileTree) (here : Location) : List String → Option Location
  | [] => if t.fullSize here ≤ databasePathLimit then some here else none
  | name :: rest =>
    if name = "" ∨ name = "." then t.locateFrom here rest
    else if name = ".." then if here = [] then none else t.locateFrom here.dropLast rest
    else if t.fullSize (here ++ [name]) ≤ fullPathLimit then t.locateFrom (here ++ [name]) rest
    else none

def locate? (t : FileTree) (path : String) : Option Location := do
  let cs ← t.relative? path
  t.locateFrom [] ((Text.split '/' cs).map String.ofList)

/-- The database at a location. An empty file is a database without tables. -/
def database (t : FileTree) (here : Location) : Except EngineError Consent.Database :=
  match t.node? here with
  | some (.database db) => .ok db
  | some (.document []) | some (.program []) => .ok .withoutTable
  | some (.document _) | some (.program _) => .error .notADatabase
  | some .directory | none => .error .cannotOpen

def setDatabase (t : FileTree) (here : Location) (db : Consent.Database) : FileTree :=
  { t with nodes := t.nodes.map fun entry =>
      if entry.1 = here then (entry.1, .database db) else entry }

def hasRoom (t : FileTree) (here : Location) : Bool :=
  (t.node? here).isNone && t.isDirectory here.dropLast &&
    here.getLast?.all fun name => name.utf8ByteSize ≤ nameLimit

def make (t : FileTree) (here : Location) : FileTree :=
  { t with nodes := (here, .document []) :: t.nodes }

/-! ## Programs -/

/-- The file at a path must be one that can be run. -/
def programAt (t : FileTree) (path : String) : Except SystemError Location := do
  let here ← t.resolve path
  match t.node? here with
  | some (.program _) => .ok here
  | _ => .error .permissionDenied

/-- Looks for a program in one directory after the other. If there is none, a file that cannot
be run is what is told of. -/
def search (t : FileTree) (name : String) (sofar : SystemError) :
    List String → Except SystemError Location
  | [] => .error sofar
  | directory :: rest =>
    match t.programAt (Text.joinPath directory name) with
    | .ok here => .ok here
    | .error cause =>
      if cause = .permissionDenied ∨ cause = .notFound ∨ cause = .notADirectory then
        t.search name (if sofar = .permissionDenied then sofar else cause) rest
      else .error cause

/-- The file that a program name stands for; only one without a slash is searched for. -/
def program (t : FileTree) (directories : List String) (name : String) :
    Except SystemError Location :=
  if name = "" then .error .notFound
  else if name.toList.contains '/' then t.programAt name
  else t.search name .notFound directories

end FileTree

end SimApprove

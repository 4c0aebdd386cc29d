import SimApprove.Consent.Table
import SimApprove.Text.Path

/-!
# The consent database

A simulator keeps its grants in the table `access` of a database file. The
table comes in two shapes: the modern one has a column `auth_value`, the legacy
one has `allowed` and `prompt_count`. `Database.grant` writes the row that
allows a service for an app in the shape at hand.
-/

namespace SimApprove.Consent

inductive Database
  | withTable (t : Table)
  | withoutTable
  deriving DecidableEq, Repr

def cameraService : String := "kTCCServiceCamera"

def tableName : String := "access"

def modernColumn : String := "auth_value"

/-- Where the database lies below a simulator's home directory. -/
def databasePath (home : String) : String :=
  ["Library", "TCC", "TCC.db"].foldl Text.joinPath home

namespace Database

/-- The table of grants, whatever the case of its name. -/
def table? : Database → Option Table
  | withTable t => if sameName t.name tableName then some t else none
  | withoutTable => none

/-- The names of the table's columns, exactly as they were declared. -/
def columnNames (db : Database) : List String :=
  match db.table? with
  | some t => t.columns.map Column.name
  | none => []

def assignment (db : Database) (service app : String) : Assignment :=
  let subject := [("service", .text service), ("client", .text app), ("client_type", .integer 0)]
  if db.columnNames.contains modernColumn then
    subject ++
      [("auth_value", .integer 2), ("auth_reason", .integer 2), ("auth_version", .integer 1)]
  else
    subject ++ [("allowed", .integer 1), ("prompt_count", .integer 1)]

def grant (db : Database) (evaluate : Evaluation) (service app : String) :
    Except EngineError Database :=
  match db.table? with
  | none => .error (.noSuchTable tableName)
  | some t => (t.upsert evaluate tableName (db.assignment service app)).map withTable

/-- The bytes with which the file of a database starts. -/
def header : List UInt8 := "SQLite format 3\x00".toUTF8.toList

end Database

end SimApprove.Consent

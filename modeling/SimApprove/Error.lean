import SimApprove.Text.Measure

/-!
# Errors

One type per layer, each constructor a cause with what is known about it; the
wording is in the `message` functions. A message includes the text of the cause
it wraps. `ProgramError.sources` lists the causes below an error, outermost
first, and `ProgramError.render` appends those that the text does not mention
yet. `ProgramError.exitCode` is the exit status that an error ends the run with.
-/

namespace SimApprove

inductive SystemError
  | notFound
  | inputOutput
  | permissionDenied
  | notADirectory
  | isADirectory
  | nameTooLong
  | nulByte
  | invalidUtf8
  /-- A fault that was put into words elsewhere, with the texts of the causes below it. -/
  | other (text : String) (causes : List String := [])
  deriving DecidableEq, Repr

def SystemError.message : SystemError → String
  | notFound => "No such file or directory (os error 2)"
  | inputOutput => "Input/output error (os error 5)"
  | permissionDenied => "Permission denied (os error 13)"
  | notADirectory => "Not a directory (os error 20)"
  | isADirectory => "Is a directory (os error 21)"
  | nameTooLong => "File name too long (os error 36)"
  | nulByte => "nul byte found in provided data"
  | invalidUtf8 => "stream did not contain valid UTF-8"
  | other text _ => text

def SystemError.sources : SystemError → List String
  | other _ causes => causes
  | _ => []

inductive EngineError
  | noSuchTable (table : String)
  | noSuchColumn (table column : String)
  | notNull (table column : String)
  | datatypeMismatch
  | notADatabase
  | cannotOpen
  | cannotRead
  | readOnly
  | invalidAuthority (name : String)
  | noSuchMode (kind name : String)
  | modeNotAllowed (kind name : String)
  | noSuchFileSystem (name : String)
  deriving DecidableEq, Repr

def EngineError.code : EngineError → Nat
  | noSuchTable .. => 1
  | noSuchColumn .. => 1
  | notNull .. => 1299
  | datatypeMismatch => 20
  | notADatabase => 26
  | cannotOpen => 14
  | cannotRead => 266
  | readOnly => 8
  | invalidAuthority _ => 1
  | noSuchMode .. => 1
  | modeNotAllowed .. => 3
  | noSuchFileSystem _ => 1

def EngineError.reason : EngineError → String
  | noSuchTable table => "no such table: " ++ table
  | noSuchColumn table column => "table " ++ table ++ " has no column named " ++ column
  | notNull table column => "NOT NULL constraint failed: " ++ table ++ "." ++ column
  | datatypeMismatch => "datatype mismatch"
  | notADatabase => "file is not a database"
  | cannotOpen => "unable to open database file"
  | cannotRead => "disk I/O error"
  | readOnly => "attempt to write a readonly database"
  | invalidAuthority name => "invalid uri authority: " ++ name
  | noSuchMode kind name => "no such " ++ kind ++ " mode: " ++ name
  | modeNotAllowed kind name => kind ++ " mode not allowed: " ++ name
  | noSuchFileSystem name => "no such vfs: " ++ name

def EngineError.message (e : EngineError) : String :=
  "(code: " ++ toString e.code ++ ") " ++ e.reason

inductive DatabaseError
  | rowNotFound
  | poolTimedOut
  | poolClosed
  | workerCrashed
  | protocol (text : String)
  | columnNotFound (column : String)
  | io (cause : SystemError)
  | engine (cause : EngineError)
  | other (text : String) (causes : List String)
  deriving DecidableEq, Repr

def DatabaseError.message : DatabaseError → String
  | rowNotFound => "no rows returned by a query that expected to return at least one row"
  | poolTimedOut => "pool timed out while waiting for an open connection"
  | poolClosed => "attempted to acquire a connection on a closed pool"
  | workerCrashed => "attempted to communicate with a crashed background worker"
  | protocol text => "encountered unexpected or invalid data: " ++ text
  | columnNotFound column => "no column found for name: " ++ column
  | io cause => "error communicating with database: " ++ cause.message
  | engine cause => "error returned from database: " ++ cause.message
  | other text _ => text

def DatabaseError.sources : DatabaseError → List String
  | io cause => cause.message :: cause.sources
  | engine cause => [cause.message]
  | other _ causes => causes
  | _ => []

/-- A length of time; `nanos` stays below one second. -/
structure Duration where
  seconds : Nat
  nanos : Nat
  deriving DecidableEq, Repr

def Duration.ofParts (seconds nanos : Nat) : Duration :=
  ⟨seconds + nanos / 1000000000, nanos % 1000000000⟩

def Duration.ofMillis (n : Nat) : Duration := ⟨n / 1000, n % 1000 * 1000000⟩

inductive ConfigError
  | load (reason : String)
  | validation (reason : String)
  | unknownBackend (name : String)
  | io (cause : SystemError)
  deriving DecidableEq, Repr

def ConfigError.message : ConfigError → String
  | load reason => "failed to load config: " ++ reason
  | validation reason => "validation failed: " ++ reason
  | unknownBackend name => "unknown client backend \"" ++ name ++ "\". Valid: simctl, dry-run"
  | io cause => "io: " ++ cause.message

def ConfigError.sources : ConfigError → List String
  | io cause => cause.message :: cause.sources
  | _ => []

inductive ClientError
  | spawn (program : String) (cause : SystemError)
  | commandFailed (command status stderr : String)
  | timeout (command : String) (limit : Duration)
  | invalidRequest (reason : String)
  | deviceNotFound (udid reason : String)
  | consentDatabaseMissing (path : String)
  | consentDatabase (path : String) (cause : DatabaseError)
  deriving DecidableEq, Repr

def ClientError.message : ClientError → String
  | spawn program cause => "failed to spawn " ++ program ++ ": " ++ cause.message
  | commandFailed command status stderr => command ++ " exited with " ++ status ++ ": " ++ stderr
  | timeout command limit => command ++ " timed out after " ++ toString limit.seconds ++ "s"
  | invalidRequest reason => "invalid request: " ++ reason
  | deviceNotFound udid reason => "device " ++ udid ++ " not found: " ++ reason
  | consentDatabaseMissing path => "TCC database not found at " ++ path
  | consentDatabase path cause => "TCC database " ++ path ++ ": " ++ cause.message

def ClientError.sources : ClientError → List String
  | spawn _ cause => cause.message :: cause.sources
  | consentDatabase _ cause => cause.message :: cause.sources
  | _ => []

inductive CommandError
  | missingScheme
  | client (cause : ClientError)
  deriving DecidableEq, Repr

def CommandError.message : CommandError → String
  | missingScheme => "You need to specify --scheme when approving url permissions"
  | client cause => cause.message

def CommandError.sources : CommandError → List String
  | missingScheme => []
  | client cause => cause.sources

inductive ProgramError
  | config (cause : ConfigError)
  | command (cause : CommandError)
  | other (text : String) (causes : List String)
  deriving DecidableEq, Repr

def ProgramError.message : ProgramError → String
  | config cause => "config: " ++ cause.message
  | command cause => cause.message
  | other text _ => text

def ProgramError.sources : ProgramError → List String
  | config cause => cause.message :: cause.sources
  | command cause => cause.sources
  | other _ causes => causes

/-! ## Rendering -/

/-- A text followed by each cause that it does not contain by then. -/
def appendCauses (rendered : String) : List String → String
  | [] => rendered
  | cause :: rest =>
    appendCauses (if Text.contains rendered cause then rendered else rendered ++ ": " ++ cause) rest

def ProgramError.render (e : ProgramError) : String := appendCauses e.message e.sources

/-! ## Exit statuses -/

def ClientError.exitCode : ClientError → UInt8
  | spawn .. => 69
  | commandFailed .. => 70
  | timeout .. => 75
  | invalidRequest .. => 70
  | deviceNotFound .. => 68
  | consentDatabaseMissing .. => 68
  | consentDatabase .. => 74

def CommandError.exitCode : CommandError → UInt8
  | missingScheme => 1
  | client cause => cause.exitCode

def ProgramError.exitCode : ProgramError → UInt8
  | config _ => 78
  | command cause => cause.exitCode
  | other .. => 70

/-! ## Steps that can fail -/

theorem map_eq_ok_iff {ε α β : Type} {f : α → β} {action : Except ε α} {b : β} :
    action.map f = .ok b ↔ ∃ a, action = .ok a ∧ f a = b := by
  cases action <;> simp [Except.map]

theorem bind_eq_ok_iff {ε α β : Type} {action : Except ε α} {next : α → Except ε β} {b : β} :
    action >>= next = .ok b ↔ ∃ a, action = .ok a ∧ next a = .ok b := by
  cases action <;> simp [bind, Except.bind]

theorem bind_eq_error_iff {ε α β : Type} {action : Except ε α} {next : α → Except ε β} {e : ε} :
    action >>= next = .error e ↔
      action = .error e ∨ ∃ a, action = .ok a ∧ next a = .error e := by
  cases action <;> simp [bind, Except.bind]

end SimApprove

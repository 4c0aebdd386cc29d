import SimApprove.Session
import SimApprove.World.Basic

/-!
# Grants in the database at a path

`ConsentStore.grant` allows a service for an app in the consent database at a path. A
path without a file, a file that is no database and a table that does not take the row
are faults, and leave everything as it was, but that the engine may have made an empty file.
-/

namespace SimApprove.ConsentStore

def writing (path service app : String) : Log.Event where
  level := .debug
  origin := .consentStore
  message := "writing TCC grant"
  fields := [.bare "db" path, .quoted "service" service, .quoted "bundle_id" app]

/-- The database at a path. Whether there is a file is asked by the path's own
words, before the engine gives them a meaning. -/
def openDatabase (path : String) : Action World ClientError OpenDatabase :=
  Action.transform fun w =>
    match w.files.resolve path with
    | .error _ => (.error (.consentDatabaseMissing path), w)
    | .ok _ =>
      match w.files.openDatabase path with
      | .error cause => (.error (.consentDatabase path (.engine cause)), w)
      | .ok d => (.ok d, { w with files := w.files.opened d })

def write (path service app : String) (d : OpenDatabase) : Action World ClientError Unit :=
  Action.transform fun w =>
    match d.grant w.evaluate service app with
    | .error cause => (.error (.consentDatabase path (.engine cause)), w)
    | .ok content => (.ok (), { w with files := w.files.store d.file content })

def grant (path service app : String) : Action World ClientError Unit := do
  let d ← openDatabase path
  Action.emit (writing path service app)
  write path service app d

end SimApprove.ConsentStore

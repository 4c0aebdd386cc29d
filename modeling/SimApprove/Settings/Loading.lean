import SimApprove.Settings.Document
import SimApprove.Settings.Environment
import SimApprove.World.FileTree

/-!
# Loading settings

The settings of a run come from three layers: the environment, the file below
the home directory, and the defaults. A file that does not exist leaves the
defaults; one that exists has to be usable. The result is validated as a whole.
-/

namespace SimApprove.Settings

def loadFrom (files : FileTree) (path : String) : Except ConfigError Settings :=
  if files.has path then
    match files.read path with
    | .error cause => .error (.io cause)
    | .ok bytes =>
      match Text.Utf8.decode? bytes with
      | none => .error (.io .invalidUtf8)
      | some document => ofDocument path document
  else .ok { configPath := path }

/-- The settings of the file below a home directory. The file tree has names that are texts
only, so there is nothing in a directory with another name. -/
def loadBelow (files : FileTree) (home : List UInt8) : Except ConfigError Settings :=
  match Text.Utf8.decode? home with
  | some home => loadFrom files (Environment.configPath home)
  | none => .ok { configPath := Environment.configPath (Text.Utf8.decodeLossy home) }

def load (files : FileTree) (env : Environment) : Except ConfigError Settings :=
  match env.home? with
  | none => .error (.load "could not find home directory")
  | some home => do
    let s ← loadBelow files home
    let s := s.overriddenBy env
    s.validate
    .ok s

theorem validate_of_load {files : FileTree} {env : Environment} {s : Settings}
    (h : load files env = .ok s) : s.validate = .ok () := by
  unfold load at h
  split at h
  · cases h
  · simp only [bind, Except.bind] at h
    split at h
    · cases h
    · split at h
      · cases h
      · rename_i hv
        cases h
        exact hv

end SimApprove.Settings

import SimApprove.Error
import SimApprove.Log.Event

/-!
# Setting up the log

A process has one log. Its threshold is set once and for all; a second attempt
fails and leaves the threshold alone. Until then nothing is shown.
-/

namespace SimApprove.Log

abbrev Setup := Option Level

namespace Setup

def alreadySet : ProgramError :=
  .other "failed to install log subscriber"
    ["a global default trace dispatcher has already been set"]

def install (s : Setup) (threshold : Level) : Except ProgramError Unit × Setup :=
  match s with
  | none => (.ok (), some threshold)
  | some _ => (.error alreadySet, s)

def shown (s : Setup) (events : List Event) : List Event :=
  match s with
  | none => []
  | some threshold => atLevel threshold events

end Setup

end SimApprove.Log

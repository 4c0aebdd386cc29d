import SimApprove.World.OpenDatabase
import SimApprove.World.Tool

/-!
# The world of a run

What a run acts on: the host, files, and the attempts made so far to start a tool. How
a tool replies is any function of the finished calls before it and of the call
itself, so a statement about all worlds covers every behaviour of the tools.
-/

namespace SimApprove

inductive Attempt
  | refused (cause : SystemError)
  | hung
  | finished (finish : Finish)
  deriving DecidableEq, Repr

def Attempt.isFinished : Attempt → Bool
  | finished _ => true
  | _ => false

/-- What a run meets and cannot change. -/
structure Host where
  /-- The directories that are searched for programs given without a slash. -/
  searchPath : List String := ["bin"]
  respond : List Call → Call → Reply
  evaluate : Consent.Evaluation := fun _ => .null

structure World extends Host where
  files : FileTree
  /-- Every attempt to start a tool, oldest first, with what became of it. -/
  attempts : List (Call × Attempt) := []

namespace World

def calls (w : World) : List Call := (w.attempts.filter (·.2.isFinished)).map Prod.fst

/-- A NUL in a program or argument is refused before the program is looked for. -/
def startable (w : World) (call : Call) : Except SystemError Unit :=
  if (call.program :: call.arguments).any fun s => s.toList.contains '\x00' then .error .nulByte
  else (w.files.program w.searchPath call.program).map fun _ => ()

def attempt (w : World) (call : Call) : Attempt :=
  match w.startable call with
  | .error cause => .refused cause
  | .ok _ =>
    match w.respond w.calls call with
    | .refuses cause => .refused cause
    | .hangs => .hung
    | .finishes finish => .finished finish

theorem respond_of_attempt {w : World} {call : Call} {finish : Finish}
    (h : w.attempt call = .finished finish) : w.respond w.calls call = .finishes finish := by
  simp only [attempt] at h
  split at h
  · cases h
  · cases hr : w.respond w.calls call with
    | finishes finish' =>
      rw [hr] at h
      cases h
      rfl
    | refuses | hangs =>
      rw [hr] at h
      cases h

def record (w : World) (call : Call) : World :=
  { w with attempts := w.attempts ++ [(call, w.attempt call)] }

/-- Runs a tool. Nothing changes but the record of attempts. -/
def launch (w : World) (call : Call) : Attempt × World := (w.attempt call, w.record call)

@[simp] theorem files_record (w : World) (call : Call) : (w.record call).files = w.files := rfl

@[simp] theorem host_record (w : World) (call : Call) : (w.record call).toHost = w.toHost := rfl

@[simp] theorem attempts_record (w : World) (call : Call) :
    (w.record call).attempts = w.attempts ++ [(call, w.attempt call)] := rfl

theorem calls_record (w : World) (call : Call) :
    (w.record call).calls = w.calls ++ if (w.attempt call).isFinished then [call] else [] := by
  cases h : (w.attempt call).isFinished <;> simp [calls, List.filter_append, h]

end World

end SimApprove

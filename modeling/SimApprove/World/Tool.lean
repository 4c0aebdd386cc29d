import SimApprove.Error

/-!
# Calls of outside tools

A call is a program with its arguments, each a text of its own. A tool that is called may
not come to run at all, hang for ever, or finish with a status and two streams of bytes.
-/

namespace SimApprove

structure Call where
  program : String
  arguments : List String
  deriving DecidableEq, Repr

def Call.text (c : Call) : String := " ".intercalate (c.program :: c.arguments)

inductive ExitStatus
  | exited (code : Nat)
  | signaled (number : Nat) (coreDumped : Bool)
  deriving DecidableEq, Repr

/-- The status that a code given to the system ends in: eight bits of it are kept. -/
def ExitStatus.ofCode (code : Int) : ExitStatus := .exited (code % 256).toNat

def ExitStatus.success (s : ExitStatus) : Bool := s = exited 0

def signalName? : Nat → Option String
  | 1 => some "SIGHUP"
  | 2 => some "SIGINT"
  | 3 => some "SIGQUIT"
  | 4 => some "SIGILL"
  | 5 => some "SIGTRAP"
  | 6 => some "SIGABRT"
  | 7 => some "SIGBUS"
  | 8 => some "SIGFPE"
  | 9 => some "SIGKILL"
  | 10 => some "SIGUSR1"
  | 11 => some "SIGSEGV"
  | 12 => some "SIGUSR2"
  | 13 => some "SIGPIPE"
  | 14 => some "SIGALRM"
  | 15 => some "SIGTERM"
  | 16 => some "SIGSTKFLT"
  | 17 => some "SIGCHLD"
  | 18 => some "SIGCONT"
  | 19 => some "SIGSTOP"
  | 20 => some "SIGTSTP"
  | 21 => some "SIGTTIN"
  | 22 => some "SIGTTOU"
  | 23 => some "SIGURG"
  | 24 => some "SIGXCPU"
  | 25 => some "SIGXFSZ"
  | 26 => some "SIGVTALRM"
  | 27 => some "SIGPROF"
  | 28 => some "SIGWINCH"
  | 29 => some "SIGIO"
  | 30 => some "SIGPWR"
  | 31 => some "SIGSYS"
  | _ => none

def ExitStatus.text : ExitStatus → String
  | exited code => "exit status: " ++ toString code
  | signaled number coreDumped =>
    "signal: " ++ toString number ++
      (match signalName? number with
      | some name => " (" ++ name ++ ")"
      | none => "") ++
      (if coreDumped then " (core dumped)" else "")

structure Finish where
  status : ExitStatus
  stdout : List UInt8
  stderr : List UInt8
  deriving DecidableEq, Repr

inductive Reply
  /-- The system did not let the tool start. -/
  | refuses (cause : SystemError)
  | hangs
  | finishes (finish : Finish)
  deriving DecidableEq, Repr

end SimApprove

import SimApprove.Dispatch
import SimApprove.Log.Setup
import SimApprove.Settings.Loading
import SimApprove.Terminal.Colors

/-!
# The program

One run from the command line to the exit status. A run passes four gates in
turn: the command line must be readable, the settings usable, the command
complete, and the client must succeed. `Program.conclude` says how a run ends and
what world it leaves; `Program.run` puts the ending into a report.

Standard output holds nothing but help, the version, and the advice about a
missing scheme; logs and all other errors belong on standard error.
-/

namespace SimApprove

namespace Program

structure Input where
  arguments : List String
  environment : Environment
  world : World

inductive Ending
  | succeeded
  | answered (e : CommandLine.UsageError)
  | failed (e : ProgramError)
  deriving DecidableEq, Repr

def Ending.ofResult : Except ProgramError Unit → Ending
  | .ok () => succeeded
  | .error e => failed e

structure Report where
  exitCode : UInt8
  output : String
  /-- The events that the log shows, before any error message. -/
  log : List Log.Event
  /-- What standard error gets apart from the log. -/
  errors : String
  deriving DecidableEq, Repr

/-- Colours are used on demand only. -/
def colors (env : Environment) : Terminal.Colors :=
  match env.text? "CLICOLOR_FORCE" with
  | some text => ⟨text ≠ "0", text ≠ "0"⟩
  | none => .off

/-- In answers of the command line the wish for no colours comes first. -/
def usageColored (env : Environment) : Bool :=
  ((env.bytes? "NO_COLOR").getD []).isEmpty &&
    (match env.bytes? "CLICOLOR_FORCE" with
    | some bytes => bytes ≠ "0".toUTF8.toList
    | none => false)

namespace Report

def success (log : List Log.Event) : Report := ⟨0, "", log, ""⟩

def ofUsageError (colored : Bool) (e : CommandLine.UsageError) : Report :=
  let text := Terminal.renderAll colored e.spans
  if e.onOutput then ⟨e.exitCode, text, [], ""⟩ else ⟨e.exitCode, "", [], text⟩

def schemeAdvice (colors : Terminal.Colors) : String :=
  "You need to specify " ++ colors.retype "--scheme" ++ " when approving url permissions\n"

/-- A missing scheme is for the user to mend, so it is no error message. -/
def ofError (colors : Terminal.Colors) (log : List Log.Event) (e : ProgramError) : Report :=
  match e with
  | .command .missingScheme => ⟨e.exitCode, schemeAdvice colors, log, ""⟩
  | e => ⟨e.exitCode, "", log, colors.errorWord "error:" ++ " " ++ e.render ++ "\n"⟩

def ofEnding (env : Environment) (log : List Log.Event) : Ending → Report
  | .succeeded => .success log
  | .answered e => .ofUsageError (usageColored env) e
  | .failed e => .ofError (colors env) log e

theorem exitCode_ofEnding_answered (env : Environment) (log : List Log.Event)
    (e : CommandLine.UsageError) : (ofEnding env log (.answered e)).exitCode = e.exitCode := by
  simp only [ofEnding, ofUsageError]
  split <;> rfl

theorem exitCode_ofEnding_failed (env : Environment) (log : List Log.Event) (e : ProgramError) :
    (ofEnding env log (.failed e)).exitCode = e.exitCode := by
  simp only [ofEnding, ofError]
  split <;> rfl

theorem output_ofEnding_answered (env : Environment) (log : List Log.Event)
    (e : CommandLine.UsageError) :
    (ofEnding env log (.answered e)).output =
      if e.onOutput then Terminal.renderAll (usageColored env) e.spans else "" := by
  simp only [ofEnding, ofUsageError]
  split <;> rfl

theorem output_ofEnding_failed (env : Environment) (log : List Log.Event) {e : ProgramError}
    (h : e ≠ .command .missingScheme) : (ofEnding env log (.failed e)).output = "" := by
  cases e with
  | command cause =>
    cases cause with
    | missingScheme => exact absurd rfl h
    | client _ => rfl
  | _ => rfl

end Report

def threshold (i : CommandLine.Invocation) (s : Settings) : Log.Level :=
  if i.verbose then .debug else s.level

def configLoaded (s : Settings) : Log.Event where
  level := .debug
  origin := .program
  message := "config loaded"
  fields := [.bare "path" s.configPath, .bare "backend" s.client.backend]

def body (i : CommandLine.Invocation) (s : Settings) : Action World ProgramError Unit := do
  Action.emit (configLoaded s)
  i.dispatch s

structure Conclusion where
  ending : Ending
  /-- The events that the log shows. -/
  shown : List Log.Event
  world : World

def conclude (input : Input) : Conclusion :=
  match CommandLine.Invocation.ofArguments input.arguments with
  | .error e => ⟨.answered e, [], input.world⟩
  | .ok i =>
    match Settings.load input.world.files input.environment with
    | .error e => ⟨.failed (.config e), [], input.world⟩
    | .ok s =>
      match Log.Setup.install none (threshold i s) with
      | (.error e, _) => ⟨.failed e, [], input.world⟩
      | (.ok (), setup) =>
        let (result, after) := (body i s).run ⟨input.world, []⟩
        ⟨.ofResult result, setup.shown after.log, after.state⟩

def run (input : Input) : Report × World :=
  let c := conclude input
  (.ofEnding input.environment c.shown c.ending, c.world)

end Program

end SimApprove

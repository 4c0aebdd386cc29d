import SimApprove.World.Tool

/-!
# Scripted tools

A script is a list of rules. The first rule that fits a call decides the reply;
a call that no rule fits finishes with success and prints nothing.
-/

namespace SimApprove

structure ScriptRule where
  /-- Required leading arguments; `none` stands for any. -/
  pattern : List (Option String)
  /-- The number of finished calls at which the rule applies, if only at one. -/
  onCall : Option Nat
  reply : Reply
  deriving DecidableEq, Repr

abbrev Script := List ScriptRule

/-- The arguments start as the pattern says; there may be more of them. -/
def matchesPattern : List (Option String) → List String → Bool
  | [], _ => true
  | _ :: _, [] => false
  | expected :: pattern, arg :: args =>
    (match expected with
    | some text => text = arg
    | none => true) && matchesPattern pattern args

def ScriptRule.fits (r : ScriptRule) (history : List Call) (call : Call) : Bool :=
  matchesPattern r.pattern call.arguments &&
    (match r.onCall with
    | some n => n = history.length
    | none => true)

def Script.respond (s : Script) (history : List Call) (call : Call) : Reply :=
  match s.find? (·.fits history call) with
  | some rule => rule.reply
  | none => .finishes ⟨.exited 0, [], []⟩

end SimApprove

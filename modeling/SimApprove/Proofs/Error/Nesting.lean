import SimApprove.Proofs.Error.Rendering
import SimApprove.Proofs.Program
import SimApprove.Proofs.Settings.Validation

/-!
# Causes that are in the text

The message of an error contains that of the error it wraps. If this goes on in what other
parties report, every cause stands in the text, and an error is rendered as its text alone:
`render_typed`. Errors without a type of their own are the exception, and no run ends with one.
What a run meets in files and tools is nested, so the error that ends it is rendered as its
text without any condition: `render_of_ending`.
-/

namespace SimApprove

def Nested (texts : List String) : Prop :=
  texts.IsChain fun outer inner => inner.toList <:+: outer.toList

section
variable {text cause : String} {causes : List String}

theorem nested_cons_iff :
    Nested (text :: cause :: causes) ↔ cause.toList <:+: text.toList ∧ Nested (cause :: causes) :=
  List.isChain_cons_cons

theorem nested_singleton (text : String) : Nested [text] := .singleton text

theorem Nested.infix_of_mem (h : Nested (text :: causes)) (hc : cause ∈ causes) :
    cause.toList <:+: text.toList := by
  induction causes generalizing text with
  | nil => cases hc
  | cons first rest ih =>
    obtain ⟨hfirst, hrest⟩ := nested_cons_iff.mp h
    rcases List.mem_cons.mp hc with rfl | hc
    · exact hfirst
    · exact (ih hrest hc).trans hfirst

theorem Nested.append (h : Nested (cause :: causes)) (front : String) :
    Nested ((front ++ cause) :: cause :: causes) := by
  refine nested_cons_iff.mpr ⟨?_, h⟩
  rw [String.toList_append]
  exact (List.suffix_append _ _).isInfix

end

-- ---------------------------------------------------------------------------
-- Errors of other parties
-- ---------------------------------------------------------------------------

def SystemError.IsNested (e : SystemError) : Prop := Nested (e.message :: e.sources)

def DatabaseError.IsNested (e : DatabaseError) : Prop := Nested (e.message :: e.sources)

theorem DatabaseError.isNested_io {cause : SystemError} (h : cause.IsNested) :
    (io cause).IsNested :=
  Nested.append h _

theorem DatabaseError.isNested_engine (cause : EngineError) : (engine cause).IsNested :=
  (nested_singleton _).append _

-- ---------------------------------------------------------------------------
-- Errors of the program
-- ---------------------------------------------------------------------------

def ConfigError.WrapsNested : ConfigError → Prop
  | io cause => cause.IsNested
  | _ => True

def ClientError.WrapsNested : ClientError → Prop
  | spawn _ cause => cause.IsNested
  | consentDatabase _ cause => cause.IsNested
  | _ => True

/-- What another party reports within the error is nested. -/
def ProgramError.WrapsNested : ProgramError → Prop
  | config cause => cause.WrapsNested
  | command (.client cause) => cause.WrapsNested
  | _ => True

theorem ConfigError.nested {e : ConfigError} (h : e.WrapsNested) :
    Nested (e.message :: e.sources) := by
  cases e with
  | io cause => exact Nested.append h "io: "
  | _ => exact nested_singleton _

theorem ClientError.nested {e : ClientError} (h : e.WrapsNested) :
    Nested (e.message :: e.sources) := by
  cases e with
  | spawn program cause => exact Nested.append h ("failed to spawn " ++ program ++ ": ")
  | consentDatabase path cause => exact Nested.append h ("TCC database " ++ path ++ ": ")
  | _ => exact nested_singleton _

theorem ProgramError.nested {e : ProgramError} (htyped : ∀ text causes, e ≠ .other text causes)
    (h : e.WrapsNested) : Nested (e.message :: e.sources) := by
  cases e with
  | config cause => exact (ConfigError.nested h).append "config: "
  | command cause =>
    cases cause with
    | missingScheme => exact nested_singleton _
    | client cause => exact ClientError.nested h
  | other text causes => exact absurd rfl (htyped text causes)

theorem ProgramError.render_eq_message {e : ProgramError}
    (htyped : ∀ text causes, e ≠ .other text causes) (h : e.WrapsNested) :
    e.render = e.message :=
  appendCauses_eq_self_iff.mpr fun _ => (nested htyped h).infix_of_mem

/-- Nothing is appended to the text of an error with a type. The wrappers of a client's error
say nothing of their own, and that of a fault of the settings names them. -/
theorem render_typed {e : ProgramError} (htyped : ∀ text causes, e ≠ .other text causes)
    (h : e.WrapsNested) :
    e.render = e.message ∧
    (∀ cause : ClientError, e = .command (.client cause) → e.render = cause.message) ∧
    (e = .command .missingScheme →
      e.render = "You need to specify --scheme when approving url permissions") ∧
    ∀ cause : ConfigError, e = .config cause → e.render = "config: " ++ cause.message := by
  have hrender : e.render = e.message := ProgramError.render_eq_message htyped h
  refine ⟨hrender, fun cause he => ?_, fun he => ?_, fun cause he => ?_⟩
  · rw [hrender, he]
    rfl
  · rw [hrender, he]
    rfl
  · rw [hrender, he]
    rfl

/-- The causes are two levels deep, and the innermost one is another party's. -/
theorem render_typed_of_full_disk :
    let cause : ClientError := .consentDatabase "TCC.db" (.io (.other "disk: full" ["full"]))
    let e : ProgramError := .command (.client cause)
    (∀ text causes, e ≠ .other text causes) ∧ e.WrapsNested ∧
      e.sources = ["error communicating with database: disk: full", "disk: full", "full"] ∧
      e.render = "TCC database TCC.db: error communicating with database: disk: full" := by
  intro cause e
  have htyped : ∀ text causes, e ≠ .other text causes := by simp [e]
  have hdisk : (SystemError.other "disk: full" ["full"]).IsNested :=
    (nested_singleton "full").append "disk: "
  have hwraps : e.WrapsNested := DatabaseError.isNested_io hdisk
  exact ⟨htyped, hwraps, rfl, (render_typed htyped hwraps).2.1 cause rfl⟩

/-- A fault that keeps its cause to itself is told with it. -/
example : (ProgramError.config (.io (.other "disk" ["full"]))).render =
    "config: io: disk: full" := by decide +kernel

-- ---------------------------------------------------------------------------
-- What a run meets
-- ---------------------------------------------------------------------------

namespace FileTree

variable {t : FileTree} {path name : String} {here : Location} {cause : SystemError}

theorem isNested_of_walk {names : List String} (h : t.walk here names = .error cause) :
    cause.IsNested := by
  induction names generalizing here with
  | nil => cases h
  | cons name rest ih =>
    rw [walk] at h
    split at h
    · cases h
      exact nested_singleton _
    split at h
    · exact ih h
    split at h
    · split at h
      · cases h
        exact nested_singleton _
      · exact ih h
    split at h
    · cases h
      exact nested_singleton _
    split at h
    · cases h
      exact nested_singleton _
    · exact ih h

theorem isNested_of_resolve (h : t.resolve path = .error cause) : cause.IsNested := by
  unfold resolve at h
  split at h
  · cases h
    exact nested_singleton _
  split at h
  · cases h
    exact nested_singleton _
  split at h
  · exact isNested_of_walk h
  · cases h
    exact nested_singleton _

theorem isNested_of_read (h : t.read path = .error cause) : cause.IsNested := by
  rcases bind_eq_error_iff.mp h with h | ⟨here, -, h⟩
  · exact isNested_of_resolve h
  · split at h <;> cases h <;> exact nested_singleton _

theorem isNested_of_programAt (h : t.programAt path = .error cause) : cause.IsNested := by
  rcases bind_eq_error_iff.mp h with h | ⟨here, -, h⟩
  · exact isNested_of_resolve h
  · split at h <;> cases h
    exact nested_singleton _

theorem isNested_of_search {directories : List String} {sofar : SystemError}
    (hs : sofar.IsNested) (h : t.search name sofar directories = .error cause) :
    cause.IsNested := by
  induction directories generalizing sofar with
  | nil =>
    cases h
    exact hs
  | cons directory rest ih =>
    rw [search] at h
    split at h
    · cases h
    rename_i hat
    split at h
    · refine ih ?_ h
      split
      · exact hs
      · exact isNested_of_programAt hat
    · cases h
      exact isNested_of_programAt hat

theorem isNested_of_program {directories : List String}
    (h : t.program directories name = .error cause) : cause.IsNested := by
  unfold program at h
  split at h
  · cases h
    exact nested_singleton _
  split at h
  · exact isNested_of_programAt h
  · have hfirst : SystemError.notFound.IsNested := nested_singleton _
    exact isNested_of_search hfirst h

end FileTree

/-- What the system says when it does not let a tool start contains the texts of its causes. -/
def Host.RefusesNested (host : Host) : Prop :=
  ∀ calls call cause, host.respond calls call = .refuses cause → cause.IsNested

theorem World.isNested_of_startable {w : World} {call : Call} {cause : SystemError}
    (h : w.startable call = .error cause) : cause.IsNested := by
  unfold startable at h
  split at h
  · cases h
    exact nested_singleton _
  · cases hp : w.files.program w.searchPath call.program with
    | error e =>
      rw [hp] at h
      cases h
      exact FileTree.isNested_of_program hp
    | ok here =>
      rw [hp] at h
      cases h

theorem World.isNested_of_refused {w : World} {call : Call} {cause : SystemError}
    (hw : w.RefusesNested) (h : w.attempt call = .refused cause) : cause.IsNested := by
  unfold attempt at h
  split at h
  · cases h
    exact isNested_of_startable ‹_›
  · split at h <;> cases h
    exact hw _ _ _ ‹_›

theorem Simulator.Visit.wrapsNested {sim : Simulator} {a : Approval} {w : World} {p : Permission}
    {events : List Log.Event} {e : ClientError} {files : FileTree} (hw : w.RefusesNested)
    (h : Visit sim a w p events (.error e) files) : e.WrapsNested := by
  cases h with
  | refused h => exact World.isNested_of_refused hw h
  | answered _ _ ho =>
    cases ho with
    | missing => trivial
    | unopened | unwritten => exact DatabaseError.isNested_engine _
  | _ => trivial

namespace Settings

theorem wrapsNested_of_loadFrom {files : FileTree} {path : String} {e : ConfigError}
    (h : loadFrom files path = .error e) : e.WrapsNested := by
  unfold loadFrom at h
  split at h
  · split at h
    · rename_i hr
      cases h
      exact FileTree.isNested_of_read hr
    split at h
    · cases h
      exact nested_singleton _
    · unfold ofDocument at h
      split at h
      · rename_i fault _
        cases h
        cases fault <;> trivial
      · split at h <;> cases h
        trivial
  · cases h

theorem wrapsNested_of_load {files : FileTree} {env : Environment} {e : ConfigError}
    (h : load files env = .error e) : e.WrapsNested := by
  unfold load at h
  split at h
  · cases h
    trivial
  rcases bind_eq_error_iff.mp h with h | ⟨s, -, h⟩
  · unfold loadBelow at h
    split at h
    · exact wrapsNested_of_loadFrom h
    · cases h
  rcases bind_eq_error_iff.mp h with h | ⟨_, -, h⟩
  · cases validate_eq_error_iff.mp h <;> trivial
  · cases h

end Settings

namespace Program

/-- Where the system's refusals contain their causes, the error that a run ends with is told
by its own text. -/
theorem render_of_ending {input : Input} {e : ProgramError} (hw : input.world.RefusesNested)
    (h : (conclude input).ending = .failed e) : e.render = e.message := by
  have htyped : ∀ text causes, e ≠ .other text causes := by
    rintro text causes rfl
    exact ending_ne_other input text causes h
  refine e.render_eq_message htyped ?_
  cases phase input with
  | commandLine _ hu =>
    rw [conclude_of_usageError hu] at h
    cases h
  | settings i _ hi hl =>
    rw [conclude_of_configError hi hl] at h
    cases h
    exact Settings.wrapsNested_of_load hl
  | scheme i s hi hl hs =>
    rw [(conclude_of_lacksScheme hi hl hs).1] at h
    cases h
    trivial
  | client i s hi hl hs =>
    obtain ⟨b, hb⟩ := exists_backend_of_load hl
    cases b with
    | dryRun =>
      rw [(conclude_dryRun hi hl hs hb).1] at h
      cases h
    | simulator =>
      rcases conclude_simulator hi hl hs hb with
        ⟨hend, -⟩ | ⟨-, _, _, _, _, _, _, _, _, -, hg, hv, hend⟩
      · rw [hend] at h
        cases h
      · rw [hend] at h
        cases h
        exact Simulator.Visit.wrapsNested (hg.toHost_eq ▸ hw) hv

end Program

end SimApprove

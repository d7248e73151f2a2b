import ReviewContext.Command.Run
import ReviewContext.Proofs.World.Consistency

/-!
# Commands in a world that stays as it is

A command comes out the same whatever is remembered of the world: its exit code and its output are
those it has alone. Its journal lacks the notes of searches that need not be made again, which are
written at the highest verbosity only, and is written at the verbosity of the first command that
asked for any.
-/

namespace ReviewContext

/-- An outcome without the notes of some searches. -/
def Outcome.sparing {α : Type} (outcome : Outcome α) (recalled : Note → Bool) : Outcome α :=
  { outcome with notes := outcome.notes.filter fun note => !recalled note }

namespace Command

open Outcome (Repeats)

variable {world : World} {held bare : Memory}

namespace ExtractOptions

theorem repeats_loadSystem (hleads : held.LeadsOver bare world) (options : ExtractOptions) :
    Repeats world held bare (options.loadSystem world held) (options.loadSystem world bare) := by
  unfold loadSystem
  split
  · exact Outcome.repeats_ofResult hleads _
  · exact (World.repeats_loadPrompt hleads _).map some

theorem meter_eq (hleads : held.LeadsOver bare world) (options : ExtractOptions)
    (settings : Settings) :
    options.meter world held settings = options.meter world bare settings := by
  simp only [meter, hleads.encoderFor_eq]

theorem repeats_prepare (hleads : held.LeadsOver bare world) (options : ExtractOptions)
    (settings : Settings) (system : Option String) (diff : String) :
    Repeats world held bare (options.prepare world held settings system diff)
      (options.prepare world bare settings system diff) := by
  rw [prepare, prepare, hleads.parser_eq, meter_eq hleads]
  exact Outcome.repeats_ofEvents hleads _ _

theorem repeats_run (hleads : held.LeadsOver bare world) (options : ExtractOptions)
    (machine : Bool) (surroundings : Surroundings) :
    Repeats world held bare (options.run machine world held surroundings)
      (options.run machine world bare surroundings) := by
  refine (Outcome.repeats_ofResult hleads (options.inputs world surroundings)).andThen ?_
  intro (settings, diff) held bare hleads
  refine (repeats_loadSystem hleads options).andThen ?_
  intro system held bare hleads
  exact (repeats_prepare hleads options settings system diff).map _

end ExtractOptions

theorem repeats_runTokens (hleads : held.LeadsOver bare world) (machine : Bool)
    (surroundings : Surroundings) (input : String) (model : Option String) (estimate : Bool) :
    Repeats world held bare (runTokens machine world held surroundings input model estimate)
      (runTokens machine world bare surroundings input model estimate) := by
  refine (Outcome.repeats_ofResult hleads (tokensInputs world surroundings input model)).andThen ?_
  intro (text, model) held bare hleads
  cases estimate with
  | true => exact (Outcome.repeats_ofResult hleads (.ok (estimateTokens text))).map _
  | false => exact (World.repeats_countTokens hleads model text).map _

theorem repeats_workOf (hleads : held.LeadsOver bare world) (machine : Bool) (request : Request)
    (surroundings : Surroundings) :
    Repeats world held bare (workOf machine request world held surroundings)
      (workOf machine request world bare surroundings) := by
  unfold workOf
  split
  · exact ExtractOptions.repeats_run hleads _ _ surroundings
  · exact Outcome.repeats_ofResult hleads _
  · exact repeats_runTokens hleads _ surroundings _ _ _

theorem repeats_outcomeOf (hleads : held.LeadsOver bare world) (invocation : Invocation)
    (surroundings : Surroundings) :
    Repeats world held bare (outcomeOf invocation world held surroundings)
      (outcomeOf invocation world bare surroundings) := by
  refine (repeats_workOf hleads invocation.machine invocation.request surroundings).andThen ?_
  intro output held bare hleads
  exact Outcome.repeats_ofResult hleads _

/-! ## The journal -/

theorem verbosity_setUpJournal (memory : Memory) (verbosity : Nat) :
    (memory.setUpJournal verbosity).verbosity =
      if memory.verbosity = 0 then verbosity else memory.verbosity := by
  unfold Memory.setUpJournal
  split <;> rfl

theorem verbosity_setUpJournal_zero (memory : Memory) :
    (memory.setUpJournal 0).verbosity = memory.verbosity := by
  rw [verbosity_setUpJournal]
  split <;> simp_all

/-- Setting up the journal has no part in a search. -/
theorem leadsOver_setUpJournal (hagrees : held.Agrees world) (verbosity : Nat) :
    (held.setUpJournal verbosity).LeadsOver Memory.empty world :=
  (hagrees.setUpJournal verbosity).leadsOver_empty

/-- The verbosity that an argument list asks for. -/
def verbosityOf (arguments : List String) : Nat :=
  match readInvocation arguments with
  | .error _ => 0
  | .ok invocation => invocation.verbosity

/-! ## Exits -/

/-- The exit of a command by itself, with its journal at some verbosity and without the notes of
some searches. -/
def exitSparing (recalled : Note → Bool) (verbosity : Nat) (arguments : List String)
    (world : World) (surroundings : Surroundings) : Exit :=
  match readInvocation arguments with
  | .error stop => stop.exit
  | .ok invocation =>
    exitOf verbosity invocation.machine
      ((outcomeOf invocation world Memory.empty surroundings).sparing recalled)

theorem run_eq_exitSparing (hagrees : held.Agrees world) (arguments : List String)
    (surroundings : Surroundings) :
    (run arguments world held surroundings).1 =
      exitSparing (held.recalls world) (held.setUpJournal (verbosityOf arguments)).verbosity
        arguments world surroundings := by
  unfold run exitSparing verbosityOf
  cases readInvocation arguments with
  | error stop => rfl
  | ok invocation =>
    have hrepeats :=
      repeats_outcomeOf (leadsOver_setUpJournal hagrees invocation.verbosity) invocation
        surroundings
    simp only [exitOf, Outcome.sparing, hrepeats.result, hrepeats.notes,
      Memory.recalls_setUpJournal]

theorem run_empty_eq_exitSparing (arguments : List String) (surroundings : Surroundings) :
    (run arguments world Memory.empty surroundings).1 =
      exitSparing (fun _ => false) (verbosityOf arguments) arguments world surroundings := by
  rw [run_eq_exitSparing (Memory.agrees_empty world), verbosity_setUpJournal]
  rfl

theorem exitOf_sparing (recalled : Note → Bool) (verbosity other : Nat) (machine : Bool)
    (outcome : Outcome String) :
    (exitOf verbosity machine (outcome.sparing recalled)).code =
        (exitOf other machine outcome).code ∧
      (exitOf verbosity machine (outcome.sparing recalled)).output =
        (exitOf other machine outcome).output := by
  unfold exitOf Outcome.sparing
  cases outcome.result <;> exact ⟨rfl, rfl⟩

/-- The journal has no part in the exit code and the output. -/
theorem code_and_output_exitSparing (recalled : Note → Bool) (verbosity : Nat)
    (arguments : List String) (surroundings : Surroundings) :
    (exitSparing recalled verbosity arguments world surroundings).code =
        (run arguments world Memory.empty surroundings).1.code ∧
      (exitSparing recalled verbosity arguments world surroundings).output =
        (run arguments world Memory.empty surroundings).1.output := by
  rw [run_empty_eq_exitSparing]
  unfold exitSparing
  cases readInvocation arguments with
  | error stop => exact ⟨rfl, rfl⟩
  | ok invocation =>
    have hsame (recalled : Note → Bool) (verbosity : Nat) :=
      exitOf_sparing recalled verbosity 0 invocation.machine
        (outcomeOf invocation world Memory.empty surroundings)
    obtain ⟨hcode, houtput⟩ := hsame recalled verbosity
    obtain ⟨hcodeAlone, houtputAlone⟩ := hsame (fun _ => false) (verbosityOf arguments)
    exact ⟨hcode.trans hcodeAlone.symm, houtput.trans houtputAlone.symm⟩

theorem journalText_sparing {recalled : Note → Bool} {verbosity : Nat}
    (hsearches : ∀ note, recalled note = true → note.level = .debug)
    (hverbosity : leastLevel verbosity ≠ .debug) (notes : List Note) :
    journalText verbosity (notes.filter fun note => !recalled note) =
      journalText verbosity notes := by
  have hleast : 0 < (leastLevel verbosity).rank := by
    cases hlevel : leastLevel verbosity with
    | debug => exact absurd hlevel hverbosity
    | info => decide
    | warning => decide
  unfold journalText
  rw [List.filter_filter]
  congr 2
  refine List.filter_congr fun note _ => ?_
  cases hrecalled : recalled note with
  | false => simp
  | true =>
    have hlevel : note.level.rank = 0 := by
      rw [hsearches note hrecalled]
      rfl
    simp [hlevel]
    omega

/-- At its own verbosity, and unless that is the highest, the exit is that of the command alone. -/
theorem exitSparing_eq_run {recalled : Note → Bool} {arguments : List String}
    (hsearches : ∀ note, recalled note = true → note.level = .debug)
    (hquiet : leastLevel (verbosityOf arguments) ≠ .debug) (surroundings : Surroundings) :
    exitSparing recalled (verbosityOf arguments) arguments world surroundings =
      (run arguments world Memory.empty surroundings).1 := by
  rw [run_empty_eq_exitSparing]
  unfold exitSparing
  cases readInvocation arguments with
  | error stop => rfl
  | ok invocation =>
    have hjournal (recalled : Note → Bool)
        (hsearches : ∀ note, recalled note = true → note.level = .debug) :=
      journalText_sparing hsearches hquiet
        (outcomeOf invocation world Memory.empty surroundings).notes
    simp only [exitOf, Outcome.sparing, hjournal recalled hsearches,
      hjournal (fun _ => false) (by simp)]

end Command

end ReviewContext

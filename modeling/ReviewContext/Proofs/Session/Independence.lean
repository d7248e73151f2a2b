import ReviewContext.Proofs.Command.Consistency
import ReviewContext.Session

/-!
# Sessions in a world that stays as it is

In a session that never changes the world, each operation answers as it does alone, with nothing
remembered. The one thing that shows what came before is the journal of a command. It is written at
the verbosity of the first command that asked for any, and it lacks the notes of searches whose
results the earlier operations hold.
-/

namespace ReviewContext

namespace Operation

variable {world : World} {held : Memory}

/-! ## One operation -/

/-- The verbosity that an operation asks for; only commands ask for any. -/
def verbosity : Operation → Nat
  | command arguments _ => Command.verbosityOf arguments
  | _ => 0

/-- What an operation answers alone, with the journal at some verbosity and without the notes of
some searches. -/
def answerSparing (recalled : Note → Bool) (verbosity : Nat) (world : World) :
    Operation → Except Failure Answer
  | command arguments surroundings =>
    .ok (.exit (Command.exitSparing recalled verbosity arguments world surroundings))
  | operation => (operation.perform world Memory.empty).result

/-- An operation by a memory of the world, compared with the same operation alone. -/
structure ComesOutAsAlone (world : World) (held : Memory) (operation : Operation) : Prop where
  result : (operation.perform world held).result =
    operation.answerSparing (held.recalls world) (held.setUpJournal operation.verbosity).verbosity
      world
  agrees : (operation.perform world held).memory.Agrees world
  recalls : ∀ note, (operation.perform world held).memory.recalls world note =
    (held.recalls world note ||
      (operation.perform world Memory.empty).memory.recalls world note)
  verbosity : (operation.perform world held).memory.verbosity =
    (held.setUpJournal operation.verbosity).verbosity

theorem ComesOutAsAlone.of_repeats {operation : Operation}
    (hanswer : ∀ recalled verbosity, operation.answerSparing recalled verbosity world =
      (operation.perform world Memory.empty).result)
    (hquiet : operation.verbosity = 0)
    (hrepeats : Outcome.Repeats world held Memory.empty (operation.perform world held)
      (operation.perform world Memory.empty)) :
    operation.ComesOutAsAlone world held where
  result := hrepeats.result.trans (hanswer _ _).symm
  agrees := hrepeats.agrees
  recalls := hrepeats.recalls
  verbosity := by
    rw [hrepeats.verbosity, hquiet, Command.verbosity_setUpJournal_zero]

theorem comesOutAsAlone_forgetPrompts (hagrees : held.Agrees world) :
    forgetPrompts.ComesOutAsAlone world held where
  result := rfl
  agrees := hagrees.forgetPrompts
  recalls note := by
    change held.forgetPrompts.recalls world note =
      (held.recalls world note || Memory.empty.forgetPrompts.recalls world note)
    rw [Memory.recalls_forgetPrompts, Memory.recalls_forgetPrompts, Memory.recalls_empty,
      Bool.or_false]
  verbosity := (Command.verbosity_setUpJournal_zero held).symm

theorem comesOutAsAlone_command (hagrees : held.Agrees world) (arguments : List String)
    (surroundings : Command.Surroundings) :
    (command arguments surroundings).ComesOutAsAlone world held where
  result :=
    congrArg (fun exit => Except.ok (Answer.exit exit))
      (Command.run_eq_exitSparing hagrees arguments surroundings)
  agrees := by
    change (Command.run arguments world held surroundings).2.Agrees world
    unfold Command.run
    cases Command.readInvocation arguments with
    | error stop => exact hagrees
    | ok invocation =>
      exact (Command.repeats_outcomeOf
        (Command.leadsOver_setUpJournal hagrees invocation.verbosity) invocation
          surroundings).agrees
  recalls note := by
    change (Command.run arguments world held surroundings).2.recalls world note =
      (held.recalls world note ||
        (Command.run arguments world Memory.empty surroundings).2.recalls world note)
    unfold Command.run
    cases Command.readInvocation arguments with
    | error stop => rw [Memory.recalls_empty, Bool.or_false]
    | ok invocation =>
      have hrecalls {memory : Memory} (hagrees : memory.Agrees world) :=
        (Command.repeats_outcomeOf (Command.leadsOver_setUpJournal hagrees invocation.verbosity)
          invocation surroundings).recalls note
      dsimp only
      rw [hrecalls hagrees, hrecalls (Memory.agrees_empty world), Memory.recalls_setUpJournal,
        Memory.recalls_setUpJournal, Memory.recalls_empty, Bool.false_or]
  verbosity := by
    change (Command.run arguments world held surroundings).2.verbosity =
      (held.setUpJournal (Command.verbosityOf arguments)).verbosity
    unfold Command.run Command.verbosityOf
    cases Command.readInvocation arguments with
    | error stop => exact (Command.verbosity_setUpJournal_zero held).symm
    | ok invocation =>
      exact (Command.repeats_outcomeOf
        (Command.leadsOver_setUpJournal hagrees invocation.verbosity) invocation
          surroundings).verbosity

theorem comesOutAsAlone (hagrees : held.Agrees world) (operation : Operation) :
    operation.ComesOutAsAlone world held := by
  have hleads := hagrees.leadsOver_empty
  cases operation with
  | findGrammar grammar =>
    exact .of_repeats (fun _ _ => rfl) rfl ((World.repeats_findGrammar hleads grammar).map _)
  | parse readsSections code extension budget =>
    exact .of_repeats (fun _ _ => rfl) rfl
      ((World.repeats_parse hleads readsSections code extension budget).map _)
  | countTokens model text =>
    exact .of_repeats (fun _ _ => rfl) rfl ((World.repeats_countTokens hleads model text).map _)
  | fitAll budget model texts =>
    exact .of_repeats (fun _ _ => rfl) rfl ((World.repeats_fitAll hleads budget model texts).map _)
  | loadPrompt path =>
    exact .of_repeats (fun _ _ => rfl) rfl ((World.repeats_loadPrompt hleads path).map _)
  | forgetPrompts => exact comesOutAsAlone_forgetPrompts hagrees
  | extract readsSections diff settings =>
    exact .of_repeats (fun _ _ => rfl) rfl
      ((World.repeats_extract hleads readsSections diff settings).map _)
  | prepare readsSections settings parts change =>
    exact .of_repeats (fun _ _ => rfl) rfl
      ((World.repeats_prepare readsSections settings parts hleads change).map _)
  | prepareAll readsSections settings parts workers ahead changes =>
    exact .of_repeats (fun _ _ => rfl) rfl
      ((World.repeats_prepareAll readsSections settings parts hleads workers ahead changes).map _)
  | command arguments surroundings => exact comesOutAsAlone_command hagrees arguments surroundings

/-! ## Operations in order -/

def memoryBehind (world : World) (held : Memory) : List Operation → Memory
  | [] => held
  | operation :: rest => memoryBehind world (operation.perform world held).memory rest

/-- Whether a note is that of a search whose result some operation holds, each taken alone. -/
def searched (world : World) (operations : List Operation) (note : Note) : Bool :=
  operations.any fun operation =>
    (operation.perform world Memory.empty).memory.recalls world note

/-- The verbosity of the first operation that asks for any. -/
def settledVerbosity : List Operation → Nat
  | [] => 0
  | operation :: rest =>
    if operation.verbosity = 0 then settledVerbosity rest else operation.verbosity

theorem settledVerbosity_concat (operations : List Operation) (operation : Operation) :
    settledVerbosity (operations ++ [operation]) =
      if settledVerbosity operations = 0 then operation.verbosity
      else settledVerbosity operations := by
  induction operations with
  | nil => simp [settledVerbosity, eq_comm]
  | cons first rest ih =>
    rw [List.cons_append, settledVerbosity, settledVerbosity, ih]
    by_cases hquiet : first.verbosity = 0 <;> simp [hquiet]

theorem agrees_memoryBehind (hagrees : held.Agrees world) (operations : List Operation) :
    (memoryBehind world held operations).Agrees world := by
  induction operations generalizing held with
  | nil => exact hagrees
  | cons operation rest ih => exact ih (comesOutAsAlone hagrees operation).agrees

theorem recalls_memoryBehind (hagrees : held.Agrees world) (operations : List Operation)
    (note : Note) :
    (memoryBehind world held operations).recalls world note =
      (held.recalls world note || searched world operations note) := by
  induction operations generalizing held with
  | nil => simp [memoryBehind, searched]
  | cons operation rest ih =>
    have hfirst := comesOutAsAlone hagrees operation
    rw [memoryBehind, ih hfirst.agrees, hfirst.recalls, searched, searched, List.any_cons,
      Bool.or_assoc]

theorem verbosity_memoryBehind (hagrees : held.Agrees world) (operations : List Operation) :
    (memoryBehind world held operations).verbosity =
      (held.setUpJournal (settledVerbosity operations)).verbosity := by
  induction operations generalizing held with
  | nil => exact (Command.verbosity_setUpJournal_zero held).symm
  | cons operation rest ih =>
    have hfirst := comesOutAsAlone hagrees operation
    rw [memoryBehind, ih hfirst.agrees]
    simp only [Command.verbosity_setUpJournal, hfirst.verbosity, settledVerbosity]
    by_cases hheld : held.verbosity = 0
    · by_cases hquiet : operation.verbosity = 0 <;> simp [hheld, hquiet]
    · simp [hheld]

theorem level_of_searched {operations : List Operation} {note : Note}
    (hsearched : searched world operations note = true) :
    note.level = .debug := by
  obtain ⟨operation, -, hrecalls⟩ := List.any_eq_true.mp hsearched
  exact Memory.level_of_recalls hrecalls

end Operation

namespace Session

open Operation (memoryBehind searched settledVerbosity)

theorem run_map_perform (world : World) (held : Memory) (operations : List Operation)
    (index : Nat) :
    (run ⟨world, held⟩ (operations.map Step.perform))[index]? =
      operations[index]?.map fun operation =>
        (operation.perform world (memoryBehind world held (operations.take index))).result := by
  induction operations generalizing held index with
  | nil => rfl
  | cons operation rest ih =>
    cases index with
    | zero => rfl
    | succ index =>
      simp only [List.map_cons, run, step, List.getElem?_cons_succ, List.take_succ_cons, ih,
        memoryBehind]

/-- An answer of an operation behind others that hold the results of some searches, with a journal
that is settled at some verbosity, compared with the answer that the operation gives alone. -/
structure AnswersAsAlone (world : World) (recalled : Note → Bool) (verbosity : Nat)
    (operation : Operation) (answer : Except Failure Answer) : Prop where
  /-- Only a command can tell what came before it: one whose journal is at another verbosity than it
  asked for, or at the highest. -/
  alone : (∀ arguments surroundings, operation = .command arguments surroundings →
      verbosity = Command.verbosityOf arguments ∧ Command.leastLevel verbosity ≠ .debug) →
    answer = (operation.perform world Memory.empty).result
  /-- A command leaves what it leaves alone, with its journal at the settled verbosity and without
  notes of the searches that are not made again. -/
  command : ∀ arguments surroundings, operation = .command arguments surroundings →
    ∃ exit, answer = .ok (.exit exit) ∧
      exit = Command.exitSparing recalled verbosity arguments world surroundings ∧
      exit.code = (Command.run arguments world Memory.empty surroundings).1.code ∧
      exit.output = (Command.run arguments world Memory.empty surroundings).1.output
  /-- Changes that are prepared together have the contexts that each has alone. -/
  together : ∀ readsSections settings parts workers ahead changes,
    operation = .prepareAll readsSections settings parts workers ahead changes →
    answer = (changes.mapM fun change =>
      (world.prepare Memory.empty readsSections settings parts change).result).map .contexts

theorem answersAsAlone_of_answerSparing {world : World} {recalled : Note → Bool}
    (hsearches : ∀ note, recalled note = true → note.level = .debug) (verbosity : Nat)
    (operation : Operation) :
    AnswersAsAlone world recalled verbosity operation
      (operation.answerSparing recalled verbosity world) where
  alone hown := by
    cases operation with
    | command arguments surroundings =>
      obtain ⟨rfl, hquiet⟩ := hown arguments surroundings rfl
      rw [Operation.answerSparing, Command.exitSparing_eq_run hsearches hquiet]
      rfl
    | _ => rfl
  command arguments surroundings hoperation := by
    subst hoperation
    obtain ⟨hcode, houtput⟩ :=
      Command.code_and_output_exitSparing recalled verbosity arguments surroundings
    exact ⟨_, rfl, rfl, hcode, houtput⟩
  together readsSections settings parts workers ahead changes hoperation := by
    subst hoperation
    change (Outcome.map Answer.contexts _).result = _
    rw [Outcome.map, World.result_prepareAll readsSections settings parts
      (Memory.agrees_empty world)]

/-- In a session that never changes the world, every operation answers as it does alone, but for the
journal of a command: its verbosity is that of the first command up to it that asks for any, and it
lacks the notes of searches whose results are held. -/
theorem run_answersAsAlone (world : World) (operations : List Operation) (index : Nat)
    (operation : Operation) (hoperation : operations[index]? = some operation) :
    ∃ answer, (run (start world) (operations.map Step.perform))[index]? = some answer ∧
      AnswersAsAlone world (searched world (operations.take index))
        (settledVerbosity (operations.take (index + 1))) operation answer := by
  have hagrees := Memory.agrees_empty world
  have hbehind := Operation.agrees_memoryBehind hagrees (operations.take index)
  have hrecalls :
      (memoryBehind world Memory.empty (operations.take index)).recalls world =
        searched world (operations.take index) := by
    funext note
    rw [Operation.recalls_memoryBehind hagrees, Memory.recalls_empty, Bool.false_or]
  have hverbosity :
      ((memoryBehind world Memory.empty (operations.take index)).setUpJournal
          operation.verbosity).verbosity =
        settledVerbosity (operations.take (index + 1)) := by
    rw [List.take_add_one, hoperation, Option.toList_some, Operation.settledVerbosity_concat,
      Command.verbosity_setUpJournal, Operation.verbosity_memoryBehind hagrees,
      Command.verbosity_setUpJournal]
    rfl
  refine ⟨_, ?_, answersAsAlone_of_answerSparing (fun _ => Operation.level_of_searched) _ operation⟩
  rw [start, run_map_perform, hoperation, Option.map_some,
    (Operation.comesOutAsAlone hbehind operation).result, hrecalls, hverbosity]

/-! ## Searches that show -/

/-- A world with an encoder of characters that knows no model by name. -/
def unmappedWorld : World :=
  { World.initial with tokenizer := ⟨fun _ => .unknown, .ok ⟨fun text => .ok text.length⟩⟩ }

/-- A command that counts one token and is asked for all notes. -/
def verboseCount : Operation :=
  .command ["-vv", "tokens", "-", "--model", "m"] ⟨fun _ => none, .utf8, Text.Utf8.encode "x"⟩

theorem verboseCount_answersAsAlone :
    [verboseCount, verboseCount][1]? = some verboseCount ∧
      ∃ answer,
        (run (start unmappedWorld) ([verboseCount, verboseCount].map Step.perform))[1]? =
          some answer ∧
        AnswersAsAlone unmappedWorld (searched unmappedWorld [verboseCount])
          (settledVerbosity [verboseCount, verboseCount]) verboseCount answer :=
  ⟨rfl, run_answersAsAlone unmappedWorld [verboseCount, verboseCount] 1 verboseCount rfl⟩

def errorsOf : Except Failure Answer → Option String
  | .ok (.exit exit) => exit.errors
  | _ => none

/-- The note that a model is unknown is left by the first of two commands only. -/
theorem not_forall_answer_eq_alone :
    ¬ ∀ (world : World) (operations : List Operation) (index : Nat) (operation : Operation),
      operations[index]? = some operation →
        (run (start world) (operations.map Step.perform))[index]? =
          some (operation.perform world Memory.empty).result := by
  intro halone
  have hfirst := halone unmappedWorld [verboseCount, verboseCount] 0 verboseCount rfl
  have hsecond := halone unmappedWorld [verboseCount, verboseCount] 1 verboseCount rfl
  have herrors := congrArg (Option.map errorsOf) (hfirst.trans hsecond.symm)
  revert herrors
  decide +kernel

end Session

end ReviewContext

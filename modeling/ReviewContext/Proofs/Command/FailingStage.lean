import ReviewContext.Command.Run
import ReviewContext.Proofs.World.Replay

/-!
# Where a command fails

A command goes through stages, and each of them needs the results of the earlier ones; the last one
puts the result on the standard output. A command fails exactly where one of its stages is the first
to fail, and every stage has failures of its own: a file that cannot be opened fails a command only
as its input, and a tokenizer only where tokens are what is asked for.
-/

namespace ReviewContext

/-! ## Failures of single functions -/

section Reading

variable {failure : Failure}

theorem failure_readText {decode : List UInt8 → Except String (List Char)} {bytes : List UInt8}
    (hread : readText decode bytes = .error failure) :
    ∃ message, failure = .illFormedText message := by
  unfold readText at hread
  split at hread
  · exact ⟨_, (Except.error.inj hread).symm⟩
  · cases hread

/-- A file that cannot be read fails for its name, for its place or for its bytes. -/
theorem Files.failure_readText {files : Files} {path : String}
    (hread : files.readText path = .error failure) :
    failure = .nulInPath ∨ (∃ fault name, failure = .file fault name) ∨
      ∃ message, failure = .illFormedText message := by
  unfold Files.readText at hread
  split at hread
  · exact .inl (Except.error.inj hread).symm
  · split at hread
    · exact .inr (.inl ⟨_, _, (Except.error.inj hread).symm⟩)
    · exact .inr (.inr (ReviewContext.failure_readText hread))

/-- A prompt file that cannot be opened is no failure. -/
theorem World.failure_loadPrompt {world : World} {memory : Memory} {path : Option String}
    (hload : (world.loadPrompt memory path).result = .error failure) :
    failure = .nulInPath ∨ ∃ message, failure = .illFormedText message := by
  unfold loadPrompt at hload
  split at hload
  · cases hload
  · split at hload
    · cases hload
    · unfold readPrompt at hload
      split at hload
      · cases hload
      · cases hload
      · rename_i other hother hread
        cases hload
        rcases Files.failure_readText hread with hnul | ⟨fault, name, hfile⟩ | hbytes
        · exact .inl hnul
        · exact absurd hfile (hother fault name)
        · exact .inr hbytes

end Reading

section Preparing

variable {failure : Failure}

theorem failure_tryExtractBlocks {diff : Diff.FileDiff} {settings : Settings} {parser : Parser}
    (hextract : (tryExtractBlocks diff settings parser).result = .error failure) :
    failure = .uncountableTime ∨ ∃ fault, failure = .number fault := by
  unfold tryExtractBlocks at hextract
  split at hextract
  · cases hextract
  · split at hextract
    · exact .inl (Except.error.inj hextract).symm
    · split at hextract
      · exact .inr ⟨_, (Except.error.inj hextract).symm⟩
      · cases hextract

theorem Traced.result_andThen_eq_error {α β : Type} {first : Traced α} {next : α → Traced β} :
    (first.andThen next).result = .error failure ↔
      first.result = .error failure ∨
        ∃ value, first.result = .ok value ∧ (next value).result = .error failure := by
  unfold andThen
  cases first.result <;> simp

theorem Change.failure_draft {change : Change} {settings : Settings} {parser : Parser}
    {meter : Meter} {parts : PromptParts}
    (hdraft : (change.draft settings parser meter parts).result = .error failure) :
    failure = .blank .path ∨ failure = .uncountableTime ∨ ∃ fault, failure = .number fault := by
  unfold draft at hdraft
  split at hdraft
  · exact .inr (.inr ⟨_, (Except.error.inj hdraft).symm⟩)
  · rcases Traced.result_andThen_eq_error.mp hdraft with hextract | ⟨extraction, -, hnumbered⟩
    · unfold extraction at hextract
      split at hextract
      · exact .inl (Except.error.inj hextract).symm
      · exact .inr (failure_tryExtractBlocks hextract)
    · split at hnumbered
      · exact .inr (.inr ⟨_, (Except.error.inj hnumbered).symm⟩)
      · cases hnumbered

end Preparing

namespace Command

variable {world : World} {memory : Memory} {surroundings : Surroundings} {failure : Failure}

theorem failure_readInput {name : String}
    (hread : readInput world surroundings name = .error failure) :
    failure = .nulInPath ∨ (∃ fault name, failure = .file fault name) ∨
      ∃ message, failure = .illFormedText message := by
  unfold readInput at hread
  split at hread
  · exact .inr (.inr (failure_readText hread))
  · exact Files.failure_readText hread

namespace ExtractOptions

variable {options : ExtractOptions}

theorem failure_settings {environment : Environment}
    (hsettings : options.settings environment = .error failure) :
    (∃ fault, failure = .setting fault) ∨ ∃ use, failure = .blank use := by
  unfold settings at hsettings
  split at hsettings
  · exact .inl ⟨_, (Except.error.inj hsettings).symm⟩
  · split at hsettings
    · rename_i fault hoverride
      rw [← Except.error.inj hsettings]
      unfold failureFor
      split
      · split
        · exact .inr ⟨_, rfl⟩
        · exact .inl ⟨_, rfl⟩
      · split
        · exact .inr ⟨_, rfl⟩
        · exact .inl ⟨_, rfl⟩
      · exact .inl ⟨_, rfl⟩
    · cases hsettings

theorem failure_loadSystem (hload : (options.loadSystem world memory).result = .error failure) :
    failure = .nulInPath ∨ ∃ message, failure = .illFormedText message := by
  unfold loadSystem at hload
  split at hload
  · cases hload
  · exact World.failure_loadPrompt (Outcome.result_map_eq_error.mp hload)

theorem failure_draft_andThen_conclude {change : Change} {settings : Settings} {parser : Parser}
    {meter : Meter} {parts : PromptParts}
    (hwork : ((change.draft settings parser meter parts).andThen
      (options.conclude settings)).result = .error failure) :
    (∃ use, failure = .blank use) ∨ failure = .uncountableTime ∨
      ∃ fault, failure = .number fault := by
  rcases Traced.result_andThen_eq_error.mp hwork with hdraft | ⟨draft, -, hconclude⟩
  · exact (Change.failure_draft hdraft).imp_left fun hblank => ⟨.path, hblank⟩
  · unfold conclude at hconclude
    split at hconclude
    · exact .inl ⟨_, (Except.error.inj hconclude).symm⟩
    · cases hconclude

theorem failure_prepare {settings : Settings} {system : Option String} {diff : String}
    (hprepare : (options.prepare world memory settings system diff).result = .error failure) :
    (∃ error, failure = .binding error) ∨ (∃ use, failure = .blank use) ∨
      failure = .uncountableTime ∨ ∃ fault, failure = .number fault :=
  (Outcome.failure_ofEvents hprepare).imp_right failure_draft_andThen_conclude

end ExtractOptions

theorem failure_modelFor {environment : Environment} {model : Option String}
    (hmodel : modelFor environment model = .error failure) :
    ∃ fault, failure = .setting fault := by
  unfold modelFor at hmodel
  split at hmodel
  · cases hmodel
  · split at hmodel
    · cases hmodel
    · exact ⟨_, (Except.error.inj hmodel).symm⟩

theorem failure_countTokens {model text : String}
    (hcount : (world.countTokens memory model text).result = .error failure) :
    ∃ error, failure = .tokenizer error ∧
      ((memory.encoderFor world model).bind fun encoder => encoder.count text) =
        .error error := by
  simp only [World.countTokens, Outcome.ofEvents, Memory.replay, Memory.failure_encoderSought]
    at hcount
  cases htokens : (memory.encoderFor world model).bind fun encoder => encoder.count text with
  | ok tokens =>
    rw [htokens] at hcount
    cases hcount
  | error error =>
    rw [htokens] at hcount
    exact ⟨error, (Except.error.inj hcount).symm, rfl⟩

theorem failure_printed {output : String}
    (hprinted : printed surroundings output = .error failure) :
    ∃ message, failure = .unwritableText message := by
  unfold printed at hprinted
  split at hprinted
  · cases hprinted
  · exact ⟨_, (Except.error.inj hprinted).symm⟩

/-! ## Stages -/

inductive Stage where
  | settings
  | input
  | promptFile
  | context
  | diff
  | view
  | model
  | count
  | output
  deriving DecidableEq, Repr

/-- The failures that a stage can end in. -/
def Stage.raises : Stage → Failure → Bool
  | settings, .setting _ | settings, .blank _ => true
  | input, .nulInPath | input, .file _ _ | input, .illFormedText _ => true
  | promptFile, .nulInPath | promptFile, .illFormedText _ => true
  | context, .binding _ | context, .blank _ | context, .uncountableTime
  | context, .number _ => true
  | diff, .number _ | view, .number _ => true
  | model, .setting _ => true
  | count, .tokenizer _ => true
  | output, .unwritableText _ => true
  | _, _ => false

/-- The stage at which the work of a request fails, the stages in front of it having succeeded. -/
inductive WorkFailsAt (world : World) (memory : Memory) (surroundings : Surroundings) :
    Request → Stage → Failure → Prop
  | settings {options failure}
      (hsettings : options.settings surroundings.environment = .error failure) :
      WorkFailsAt world memory surroundings (.extract options) .settings failure
  | extractInput {options settings failure}
      (hsettings : options.settings surroundings.environment = .ok settings)
      (hinput : readInput world surroundings options.input = .error failure) :
      WorkFailsAt world memory surroundings (.extract options) .input failure
  | promptFile {options settings diff failure}
      (hsettings : options.settings surroundings.environment = .ok settings)
      (hinput : readInput world surroundings options.input = .ok diff)
      (hsystem : (options.loadSystem world memory).result = .error failure) :
      WorkFailsAt world memory surroundings (.extract options) .promptFile failure
  | context {options settings diff system failure}
      (hsettings : options.settings surroundings.environment = .ok settings)
      (hinput : readInput world surroundings options.input = .ok diff)
      (hsystem : (options.loadSystem world memory).result = .ok system)
      (hcontext : (options.prepare world (options.loadSystem world memory).memory settings system
        diff).result = .error failure) :
      WorkFailsAt world memory surroundings (.extract options) .context failure
  | numberedInput {input path oldPath failure}
      (hinput : readInput world surroundings input = .error failure) :
      WorkFailsAt world memory surroundings (.numbered input path oldPath) .input failure
  | diff {input path oldPath text fault}
      (hinput : readInput world surroundings input = .ok text)
      (hdiff : (Change.mk path text oldPath).fileDiff = .error fault) :
      WorkFailsAt world memory surroundings (.numbered input path oldPath) .diff (.number fault)
  | view {input path oldPath text diff fault}
      (hinput : readInput world surroundings input = .ok text)
      (hdiff : (Change.mk path text oldPath).fileDiff = .ok diff)
      (hview : diff.numbered = .error fault) :
      WorkFailsAt world memory surroundings (.numbered input path oldPath) .view (.number fault)
  | tokensInput {input model estimate failure}
      (hinput : readInput world surroundings input = .error failure) :
      WorkFailsAt world memory surroundings (.tokens input model estimate) .input failure
  | model {input model estimate text failure}
      (hinput : readInput world surroundings input = .ok text)
      (hmodel : modelFor surroundings.environment model = .error failure) :
      WorkFailsAt world memory surroundings (.tokens input model estimate) .model failure
  | count {input model text name failure}
      (hinput : readInput world surroundings input = .ok text)
      (hmodel : modelFor surroundings.environment model = .ok name)
      (hcount : (world.countTokens memory name text).result = .error failure) :
      WorkFailsAt world memory surroundings (.tokens input model false) .count failure

/-- The stage at which a request fails: one of its work, or the output of what the work gave. -/
inductive FailsAt (world : World) (memory : Memory) (surroundings : Surroundings) (machine : Bool)
    (request : Request) : Stage → Failure → Prop
  | work {stage failure}
      (hfails : WorkFailsAt world memory surroundings request stage failure) :
      FailsAt world memory surroundings machine request stage failure
  | output {result failure}
      (hwork : (workOf machine request world memory surroundings).result = .ok result)
      (hprinted : printed surroundings result = .error failure) :
      FailsAt world memory surroundings machine request .output failure

theorem WorkFailsAt.raises {request : Request} {stage : Stage}
    (hfails : WorkFailsAt world memory surroundings request stage failure) :
    stage.raises failure = true := by
  have hreads {name : String} (hinput : readInput world surroundings name = .error failure) :
      Stage.input.raises failure = true := by
    rcases failure_readInput hinput with rfl | ⟨fault, name, rfl⟩ | ⟨message, rfl⟩ <;> rfl
  cases hfails with
  | settings hsettings =>
    rcases ExtractOptions.failure_settings hsettings with ⟨fault, rfl⟩ | ⟨use, rfl⟩ <;> rfl
  | extractInput hsettings hinput => exact hreads hinput
  | promptFile hsettings hinput hsystem =>
    rcases ExtractOptions.failure_loadSystem hsystem with rfl | ⟨message, rfl⟩ <;> rfl
  | context hsettings hinput hsystem hcontext =>
    rcases ExtractOptions.failure_prepare hcontext with
      ⟨error, rfl⟩ | ⟨use, rfl⟩ | rfl | ⟨fault, rfl⟩ <;> rfl
  | numberedInput hinput => exact hreads hinput
  | diff hinput hdiff => rfl
  | view hinput hdiff hview => rfl
  | tokensInput hinput => exact hreads hinput
  | model hinput hmodel =>
    obtain ⟨fault, rfl⟩ := failure_modelFor hmodel
    rfl
  | count hinput hmodel hcount =>
    obtain ⟨error, rfl, -⟩ := failure_countTokens hcount
    rfl

theorem FailsAt.raises {machine : Bool} {request : Request} {stage : Stage}
    (hfails : FailsAt world memory surroundings machine request stage failure) :
    stage.raises failure = true := by
  cases hfails with
  | work hwork => exact hwork.raises
  | output hwork hprinted =>
    obtain ⟨message, rfl⟩ := failure_printed hprinted
    rfl

/-! ## The work of a command -/

section Numerals

variable {α : Type}

end Numerals

end Command

end ReviewContext

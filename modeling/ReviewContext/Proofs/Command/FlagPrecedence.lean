import Mathlib.Data.List.Nodup
import ReviewContext.Command.Run
import ReviewContext.Proofs.Settings.Variables
import ReviewContext.Proofs.World.Recollection

/-!
# Flags before variables

A flag of an extraction takes the place of a variable of the environment. The variable is read and
checked all the same, so it has no part in what a run leaves as long as its value suits the setting,
but an unsuitable value is refused although nothing would come of it.
-/

namespace ReviewContext.Command

/-! ## Overridden variables -/

/-- The flags that take the place of variables. -/
inductive Flag where
  | maxChars
  | maxLines
  | timeout
  | maxDepth
  | radius
  | model
  | maxTokens
  | reserved
  | extensions
  deriving DecidableEq

namespace Flag

def all : List Flag :=
  [maxChars, maxLines, timeout, maxDepth, radius, model, maxTokens, reserved, extensions]

/-- The variable of a flag. -/
def suffix : Flag → String
  | maxChars => "AST_MAX_CHARS"
  | maxLines => "AST_MAX_LINES"
  | timeout => "AST_TIMEOUT_MS"
  | maxDepth => "AST_MAX_DEPTH"
  | radius => "WINDOW_RADIUS"
  | model => "MODEL"
  | maxTokens => "MAX_TOKENS"
  | reserved => "RESERVED_OUTPUT_TOKENS"
  | extensions => "SUPPORTED_EXTENSIONS"

theorem mem_all (flag : Flag) : flag ∈ all := by
  cases flag <;> decide

theorem suffix_injective : Function.Injective suffix := by
  have hnodup : (all.map suffix).Nodup := by
    decide
  intro first second hsuffix
  exact List.inj_on_of_nodup_map hnodup first.mem_all second.mem_all hsuffix

end Flag

namespace ExtractOptions

/-- Whether a flag is given with a value. -/
def gives (options : ExtractOptions) : Flag → Bool
  | .maxChars => (options.maxChars.bind Given.value?).isSome
  | .maxLines => (options.maxLines.bind Given.value?).isSome
  | .timeout => (options.timeout.bind Given.value?).isSome
  | .maxDepth => (options.maxDepth.bind Given.value?).isSome
  | .radius => (options.radius.bind Given.value?).isSome
  | .model => (options.model.bind Given.value?).isSome
  | .maxTokens => (options.maxTokens.bind Given.value?).isSome
  | .reserved => (options.reserved.bind Given.value?).isSome
  | .extensions => options.extensionList?.isSome

/-- The variables whose flag is given with a value. -/
def overridden (options : ExtractOptions) : List String :=
  (Flag.all.filter options.gives).map Flag.suffix

variable {options : ExtractOptions} {environment : Environment}

theorem suffix_notMem_overridden {flag : Flag} (hfree : options.gives flag = false) :
    flag.suffix ∉ options.overridden := by
  intro hmem
  obtain ⟨other, hother, hsuffix⟩ := List.mem_map.mp hmem
  rw [Flag.suffix_injective hsuffix, List.mem_filter, hfree] at hother
  cases hother.2

theorem notMem_overridden {suffix : String} (hnone : suffix ∉ Flag.all.map Flag.suffix) :
    suffix ∉ options.overridden := by
  intro hmem
  obtain ⟨flag, -, hsuffix⟩ := List.mem_map.mp hmem
  exact hnone (List.mem_map.mpr ⟨flag, flag.mem_all, hsuffix⟩)

/-! ## The settings of an extraction -/

theorem number?_unset_of_free (flag : Flag) (hfree : options.gives flag = false) :
    (environment.unset options.overridden).number? flag.suffix =
      environment.number? flag.suffix :=
  Environment.number?_unset_of_notMem (suffix_notMem_overridden hfree)

theorem value?_unset_of_free (flag : Flag) (hfree : options.gives flag = false) :
    (environment.unset options.overridden).value? flag.suffix =
      environment.value? flag.suffix :=
  Environment.value?_unset_of_notMem (suffix_notMem_overridden hfree)

theorem model_accepted_unset (hfree : options.gives .model = false) :
    (environment.unset options.overridden).accepted.model = environment.accepted.model := by
  have hvalue := @value?_unset_of_free options environment .model hfree
  simp only [Flag.suffix] at hvalue
  rw [Environment.accepted_model, Environment.accepted_model, hvalue]

theorem tokenCeiling_accepted_unset (hfree : options.gives .maxTokens = false) :
    (environment.unset options.overridden).accepted.tokenCeiling =
      environment.accepted.tokenCeiling := by
  have hnumber := @number?_unset_of_free options environment .maxTokens hfree
  simp only [Flag.suffix] at hnumber
  rw [Environment.accepted_tokenCeiling, Environment.accepted_tokenCeiling, hnumber]

theorem extensions_accepted_unset (hfree : options.gives .extensions = false) :
    (environment.unset options.overridden).accepted.extensions =
      environment.accepted.extensions := by
  have hvalue := @value?_unset_of_free options environment .extensions hfree
  simp only [Flag.suffix] at hvalue
  rw [Environment.accepted_extensions, Environment.accepted_extensions, hvalue]

/-- What an extraction changes does not depend on the overridden variables. -/
theorem changes_accepted_unset (options : ExtractOptions) (environment : Environment) :
    options.changes (environment.unset options.overridden).accepted =
      options.changes environment.accepted := by
  have hmodel :
      (options.model.map fun given =>
          given.getD (environment.unset options.overridden).accepted.model) =
        options.model.map fun given => given.getD environment.accepted.model := by
    rcases hgiven : options.model with _ | text | _
    · rfl
    · rfl
    · rw [model_accepted_unset (by simp [gives, hgiven, Given.value?])]
  have htokens :
      (options.maxTokens.map fun given =>
          given.getD (environment.unset options.overridden).accepted.tokenCeiling) =
        options.maxTokens.map fun given => given.getD environment.accepted.tokenCeiling := by
    rcases hgiven : options.maxTokens with _ | n | _
    · rfl
    · rfl
    · rw [tokenCeiling_accepted_unset (by simp [gives, hgiven, Given.value?])]
  simp only [changes, hmodel, htokens]

theorem getD_eq_of_none {α : Type} {given : Option α} {first second : α}
    (hnone : given = none → first = second) :
    given.getD first = given.getD second := by
  cases given with
  | none => exact hnone rfl
  | some value => rfl

/-- A new number stands in front of the variable of its flag. -/
theorem getD_number?_unset {given : Option Int} (flag : Flag)
    (hfree : given = none → options.gives flag = false) (initial : Int) :
    given.getD (((environment.unset options.overridden).number? flag.suffix).getD initial) =
      given.getD ((environment.number? flag.suffix).getD initial) := by
  apply getD_eq_of_none
  intro hnone
  rw [number?_unset_of_free flag (hfree hnone)]

/-- Once the options have changed them, the settings are the same with and without the overridden
variables. -/
theorem apply_changes_unset (options : ExtractOptions) (environment : Environment)
    (settings : Settings) :
    (environment.unset options.overridden).accepted.apply (options.changes settings) =
      environment.accepted.apply (options.changes settings) := by
  have hnodes : "AST_MAX_NODES" ∉ options.overridden := notMem_overridden (by decide)
  have hexact : "EXACT_TOKENS" ∉ options.overridden := notMem_overridden (by decide)
  rw [Settings.apply, Settings.apply, Settings.mk.injEq]
  refine ⟨?_, ?_, ?_, ?_, ?_, ?_, ?_, ?_, ?_, ?_, ?_⟩
  · exact getD_number?_unset .maxChars (by simp +contextual [changes, gives]) 10000
  · exact getD_number?_unset .maxLines (by simp +contextual [changes, gives]) 150
  · exact getD_number?_unset .timeout (by simp +contextual [changes, gives]) 8000
  · exact getD_number?_unset .maxDepth (by simp +contextual [changes, gives]) 60
  · rw [Environment.accepted_maxNodes, Environment.accepted_maxNodes,
      Environment.number?_unset_of_notMem hnodes]
  · exact getD_number?_unset .radius (by simp +contextual [changes, gives]) 8
  · apply getD_eq_of_none
    intro hnone
    apply model_accepted_unset
    simp_all [changes, gives]
  · exact getD_number?_unset .maxTokens (by simp +contextual [changes, gives]) 8192
  · exact getD_number?_unset .reserved (by simp +contextual [changes, gives]) 2000
  · apply getD_eq_of_none
    intro hnone
    apply extensions_accepted_unset
    simp_all [changes, gives]
  · rw [Environment.accepted_exactTokens, Environment.accepted_exactTokens,
      Environment.value?_unset_of_notMem hexact]

/-- The settings of an extraction do not depend on overridden variables that suit their settings. -/
theorem settings_unset {options : ExtractOptions} {environment : Environment}
    (hsuits : ∀ suffix ∈ options.overridden, environment.Suits suffix) :
    options.settings (environment.unset options.overridden) = options.settings environment := by
  obtain ⟨fault?, hsettings, hunset⟩ := Environment.settings_unset hsuits
  rw [settings, settings, hsettings, hunset]
  cases fault? with
  | some fault => rfl
  | none =>
    have hoverride := Settings.override_congr
      (apply_changes_unset options environment environment.accepted)
    simp only [refusing, changes_accepted_unset, hoverride]

end ExtractOptions

/-! ## Runs -/

theorem unset_eq_of_agree {first second : Environment} {suffixes : List String}
    (hagree : ∀ name, name ∉ suffixes.map Environment.variableName → first name = second name) :
    first.unset suffixes = second.unset suffixes := by
  funext name
  unfold Environment.unset
  by_cases hname : name ∈ suffixes.map Environment.variableName
  · rw [if_pos hname, if_pos hname]
  · rw [if_neg hname, if_neg hname, hagree name hname]

theorem run_eq_of_settings_eq {arguments : List String} {machine : Bool} {verbosity : Nat}
    {options : ExtractOptions} {first second : Environment}
    (hread : readInvocation arguments = .ok ⟨machine, verbosity, .extract options⟩)
    (hsettings : options.settings first = options.settings second)
    (world : World) (memory : Memory) (codec : Text.Codec) (input : List UInt8) :
    run arguments world memory ⟨first, codec, input⟩ =
      run arguments world memory ⟨second, codec, input⟩ := by
  have hinputs :
      options.inputs world ⟨first, codec, input⟩ =
        options.inputs world ⟨second, codec, input⟩ := by
    simp only [ExtractOptions.inputs, hsettings, readInput]
  simp only [run, hread, outcomeOf, workOf, printed, ExtractOptions.run, hinputs]

/-- Environments that differ in overridden variables alone give the same run, provided that the
values of these variables suit their settings. -/
theorem run_eq_of_agree_but_overridden {arguments : List String} {machine : Bool} {verbosity : Nat}
    {options : ExtractOptions} {first second : Environment}
    (hread : readInvocation arguments = .ok ⟨machine, verbosity, .extract options⟩)
    (hagree : ∀ name, name ∉ options.overridden.map Environment.variableName →
      first name = second name)
    (hfirst : ∀ suffix ∈ options.overridden, first.Suits suffix)
    (hsecond : ∀ suffix ∈ options.overridden, second.Suits suffix)
    (world : World) (memory : Memory) (codec : Text.Codec) (input : List UInt8) :
    run arguments world memory ⟨first, codec, input⟩ =
      run arguments world memory ⟨second, codec, input⟩ := by
  apply run_eq_of_settings_eq hread
  rw [← ExtractOptions.settings_unset hfirst, ← ExtractOptions.settings_unset hsecond,
    unset_eq_of_agree hagree]

/-! ## Accepted and refused runs -/

section Exits

variable {arguments : List String} {machine : Bool} {verbosity : Nat} {options : ExtractOptions}
  {world : World} {memory : Memory} {surroundings : Surroundings} {settings : Settings}
  {diff : String}

theorem code_run_of_error {failure : Failure}
    (hread : readInvocation arguments = .ok ⟨machine, verbosity, .extract options⟩)
    (hinputs : options.inputs world surroundings = .error failure) :
    (run arguments world memory surroundings).1.code = 1 := by
  simp only [run, hread, outcomeOf, workOf, ExtractOptions.run, hinputs]
  rfl

/-- An environment that is refused ends the run, whatever the flags are. -/
theorem code_of_refused {fault : SettingFault}
    (hread : readInvocation arguments = .ok ⟨machine, verbosity, .extract options⟩)
    (hrefused : surroundings.environment.settings = .error fault) :
    (run arguments world memory surroundings).1.code = 1 := by
  have hsettings : options.settings surroundings.environment = .error (.setting fault) := by
    rw [ExtractOptions.settings, hrefused]
  have hinputs : options.inputs world surroundings = .error (.setting fault) := by
    rw [ExtractOptions.inputs, hsettings]
    rfl
  exact code_run_of_error hread hinputs

theorem code_run_of_isOk
    (hread : readInvocation arguments = .ok ⟨machine, verbosity, .extract options⟩)
    (hprinted : ∀ output, printed surroundings output = .ok output)
    (hrun : (options.run machine world (memory.setUpJournal verbosity) surroundings).result.isOk =
      true) :
    (run arguments world memory surroundings).1.code = 0 := by
  simp only [run, hread, outcomeOf, workOf, Outcome.andThen, Outcome.ofResult, hprinted, exitOf]
  cases hresult :
      (options.run machine world (memory.setUpJournal verbosity) surroundings).result with
  | error failure =>
    rw [hresult] at hrun
    cases hrun
  | ok output => rfl

theorem isOk_prepare
    (hagrees : memory.Agrees world)
    (hceiling : options.maxTokens = none)
    (hdraft : ((⟨options.path, diff, options.oldPath⟩ : Change).draft settings
      (memory.parser world true) (options.meter world memory settings)
        ⟨none, options.context⟩).result.isOk = true) :
    (options.prepare world memory settings none diff).result.isOk = true := by
  rw [ExtractOptions.prepare, hagrees.result_ofTraced, Traced.andThen]
  split
  · rename_i failure hfailure
    rw [hfailure] at hdraft
    cases hdraft
  · simp only [ExtractOptions.conclude, hceiling]
    rfl

theorem isOk_run
    (hinputs : options.inputs world surroundings = .ok (settings, diff))
    (hsystem : options.systemPrompt = none)
    (hprepare : (options.prepare world memory settings none diff).result.isOk = true) :
    (options.run machine world memory surroundings).result.isOk = true := by
  have hload : options.loadSystem world memory = Outcome.ofResult memory (.ok none) := by
    rw [ExtractOptions.loadSystem, hsystem, Option.filter_none]
  simp only [ExtractOptions.run, hinputs, Outcome.ofResult, Outcome.andThen, hload, Outcome.map]
  cases hresult : (options.prepare world memory settings none diff).result with
  | error failure =>
    rw [hresult] at hprepare
    cases hprepare
  | ok context => rfl

end Exits

/-! A ceiling that is given by a flag, in an environment that may have one too. -/

namespace CeilingFlag

def arguments : List String :=
  ["extract", "-", "--path", "a.md", "--estimate", "--max-chars", "5"]

def options : ExtractOptions where
  input := "-"
  path := .filled "a.md"
  oldPath := none
  maxChars := some (.filled 5)
  maxLines := none
  radius := none
  timeout := none
  maxDepth := none
  model := none
  maxTokens := none
  reserved := none
  extensions := none
  systemPrompt := none
  context := none
  includePrompt := false
  estimate := true

/-- An environment with nothing but a ceiling. -/
def environment (ceiling : String) : Environment :=
  fun name => if name = "DIFFSCOPE_AST_MAX_CHARS" then some ceiling else none

def text : String :=
  "@@ -0,0 +1 @@\n+x\n"

def surroundings (ceiling : String) : Surroundings :=
  ⟨environment ceiling, .utf8, Text.Utf8.encode text⟩

def settings : Settings :=
  { Settings.initial with maxBlockChars := 5, exactTokens := false }

theorem read_arguments : readInvocation arguments = .ok ⟨false, 0, .extract options⟩ := by
  decide +kernel

theorem overridden_options : options.overridden = ["AST_MAX_CHARS"] := by
  decide

theorem environment_eq_of_notMem (first second : String) :
    ∀ name, name ∉ options.overridden.map Environment.variableName →
      environment first name = environment second name := by
  intro name hname
  have hother : name ≠ "DIFFSCOPE_AST_MAX_CHARS" := by
    rw [overridden_options] at hname
    simpa [Environment.variableName] using hname
  simp [environment, hother]

theorem code_blank :
    (run arguments World.initial Memory.empty (surroundings "")).1.code = 0 := by
  have hinputs : options.inputs World.initial (surroundings "") = .ok (settings, text) := by
    decide +kernel
  have hprepare :
      (options.prepare World.initial Memory.empty settings none text).result.isOk = true := by
    apply isOk_prepare (Memory.agrees_empty World.initial) rfl
    decide +kernel
  exact code_run_of_isOk read_arguments (fun _ => rfl) (isOk_run hinputs rfl hprepare)

end CeilingFlag

/-- The ceiling is that of the flag, so the variable could as well have been unset. -/
theorem ceilingFlag_run_eq :
    run CeilingFlag.arguments World.initial Memory.empty (CeilingFlag.surroundings "7") =
      run CeilingFlag.arguments World.initial Memory.empty (CeilingFlag.surroundings "") := by
  have hseven : ∀ suffix ∈ CeilingFlag.options.overridden,
      (CeilingFlag.environment "7").Suits suffix := by
    rw [CeilingFlag.overridden_options]
    intro suffix hsuffix
    rw [List.mem_singleton.mp hsuffix]
    have htext : (CeilingFlag.environment "7").value? "AST_MAX_CHARS" = some "7" := by
      decide +kernel
    have hread : Text.readInteger? "7" = some 7 := by
      decide +kernel
    exact Environment.suits_of_value?_eq_some htext hread (by decide)
  have hblank : ∀ suffix ∈ CeilingFlag.options.overridden,
      (CeilingFlag.environment "").Suits suffix := by
    rw [CeilingFlag.overridden_options]
    intro suffix hsuffix
    rw [List.mem_singleton.mp hsuffix]
    apply Environment.suits_of_value?_eq_none
    decide +kernel
  exact run_eq_of_agree_but_overridden CeilingFlag.read_arguments
    (CeilingFlag.environment_eq_of_notMem "7" "") hseven hblank World.initial Memory.empty
    .utf8 (Text.Utf8.encode CeilingFlag.text)

/-- A variable whose value is no integer decides about a run although a flag overrides it. -/
theorem exists_decisive_overridden_variable :
    readInvocation CeilingFlag.arguments = .ok ⟨false, 0, .extract CeilingFlag.options⟩ ∧
      (∀ name, name ∉ CeilingFlag.options.overridden.map Environment.variableName →
        CeilingFlag.environment "x" name = CeilingFlag.environment "" name) ∧
      (run CeilingFlag.arguments World.initial Memory.empty
        (CeilingFlag.surroundings "x")).1.code = 1 ∧
      (run CeilingFlag.arguments World.initial Memory.empty
        (CeilingFlag.surroundings "")).1.code = 0 := by
  have hrefused :
      (CeilingFlag.surroundings "x").environment.settings =
        .error (.notInteger "DIFFSCOPE_AST_MAX_CHARS" "x") := by
    decide +kernel
  exact ⟨CeilingFlag.read_arguments, CeilingFlag.environment_eq_of_notMem "x" "",
    code_of_refused CeilingFlag.read_arguments hrefused, CeilingFlag.code_blank⟩

end ReviewContext.Command

import ReviewContext.Command.Invocation
import ReviewContext.Json.Text
import ReviewContext.Settings.Environment
import ReviewContext.World.Operation

/-!
# Running a command

A command reads a diff or a text, from a file or from the standard input, and writes its result to
the standard output: laid out for readers, or as one row in an envelope for machines. A failure is
reported as an error object on the standard output for machines, and as a message on the standard
error otherwise; a result that the standard output cannot take is such a failure. Notes of the
journal go to the standard error, at the verbosity that the journal is set up with: without any set-
up only warnings, bare. The first command that asks for more verbosity sets it up for all later
ones.
-/

namespace ReviewContext.Command

open ReviewContext.Diff (FileDiff)
open ReviewContext.Text (Codec)

/-- What a command finds when it is started, besides the world. -/
structure Surroundings where
  environment : Environment
  /-- The codec of the standard input and the standard output. -/
  codec : Codec
  input : List UInt8

/-- What a finished process leaves: its exit code and what it wrote. Texts that are left to the
reader of arguments are not given. -/
structure Exit where
  code : Nat
  output : String
  errors : Option String
  deriving DecidableEq, Repr

def versionText : String :=
  "diffscope 0.1.0\n"

def Stop.exit : Stop → Exit
  | .usage => ⟨2, "", none⟩
  | .help => ⟨0, "", none⟩
  | .version => ⟨0, versionText, none⟩

/-- The least level that is written at a verbosity. -/
def leastLevel (verbosity : Nat) : Level :=
  match verbosity with
  | 0 => .warning
  | 1 => .info
  | _ => .debug

def noteText (verbosity : Nat) (note : Note) : String :=
  if verbosity = 0 then note.message ++ "\n"
  else note.level.name ++ " " ++ note.component ++ ": " ++ note.message ++ "\n"

def journalText (verbosity : Nat) (notes : List Note) : String :=
  String.join
    ((notes.filter fun note => (leastLevel verbosity).rank ≤ note.level.rank).map
      (noteText verbosity))

/-- A result in the form that was asked for. -/
def resultText (machine : Bool) (result : Json) : String :=
  if machine then
    Json.render .compact (.object [("success", .bool true), ("result", result)]) ++ "\n"
  else Json.renderLaidOut result ++ "\n"

def failureOutput (machine : Bool) (failure : Failure) : String :=
  if machine then Json.render .spaced failure.report.toJson ++ "\n" else ""

def failureMessage (machine : Bool) (failure : Failure) : String :=
  if machine then "" else "Error: " ++ failure.message ++ "\n"

/-- The exit of an invocation whose work came out as given, with its journal at some verbosity. -/
def exitOf (verbosity : Nat) (machine : Bool) (outcome : Outcome String) : Exit :=
  let journal := journalText verbosity outcome.notes
  match outcome.result with
  | .ok output => ⟨0, output, some journal⟩
  | .error failure =>
    ⟨1, failureOutput machine failure, some (journal ++ failureMessage machine failure)⟩

/-- The text of the standard input or of a file. -/
def readInput (world : World) (surroundings : Surroundings) (name : String) :
    Except Failure String :=
  if name = "-" then readText surroundings.codec.decode surroundings.input
  else world.files.readText name

/-- Puts a result on the standard output, if it can be encoded. -/
def printed (surroundings : Surroundings) (output : String) : Except Failure String :=
  match surroundings.codec.encode output with
  | .ok _ => .ok output
  | .error message => .error (.unwritableText message)

namespace ExtractOptions

def extensionList? (options : ExtractOptions) : Option (List String) :=
  (options.extensions.filter fun text => !text.isEmpty).map Extension.splitList

/-- The changes of the settings by the options. A blank with a range has a stand-in outside it. -/
def changes (options : ExtractOptions) (settings : Settings) : Settings.Changes where
  maxBlockChars := options.maxChars.map fun given => given.getD 0
  maxBlockLines := options.maxLines.map fun given => given.getD 0
  parseTimeout := options.timeout.map fun given => given.getD 0
  maxDepth := options.maxDepth.map fun given => given.getD 0
  windowRadius := options.radius.map fun given => given.getD (-1)
  model := options.model.map fun given => given.getD settings.model
  tokenCeiling := options.maxTokens.map fun given => given.getD settings.tokenCeiling
  reservedTokens := options.reserved.map fun given => given.getD (-1)
  extensions := options.extensionList?
  exactTokens := if options.estimate then some false else none

/-- The options with a range, by the names of their settings. -/
def ranged (options : ExtractOptions) : List (String × Option (Given Int)) :=
  [("max_block_chars", options.maxChars), ("max_block_lines", options.maxLines),
    ("parse_timeout_ms", options.timeout), ("max_depth", options.maxDepth),
    ("window_radius", options.radius), ("reserved_output_tokens", options.reserved)]

def leavesBlank (options : ExtractOptions) (name : String) : Bool :=
  options.ranged.lookup name == some (some .blank)

/-- The failure behind a fault: a blank cannot even be compared with the bounds of its range. -/
def failureFor (options : ExtractOptions) (fault : SettingFault) : Failure :=
  match fault with
  | .notPositive name _ =>
    if options.leavesBlank name then .blank .positive else .setting fault
  | .negative name _ =>
    if options.leavesBlank name then .blank .nonnegative else .setting fault
  | .notInteger _ _ => .setting fault

/-- The environment's settings, changed by the options. -/
def settings (options : ExtractOptions) (environment : Environment) : Except Failure Settings :=
  match environment.settings with
  | .error fault => .error (.setting fault)
  | .ok settings =>
    match settings.override (options.changes settings) with
    | .error fault => .error (options.failureFor fault)
    | .ok settings => .ok settings

/-- The instructions from a file, if one is named. -/
def loadSystem (options : ExtractOptions) (world : World) (memory : Memory) :
    Outcome (Option String) :=
  match options.systemPrompt.filter fun path => !path.isEmpty with
  | none => Outcome.ofResult memory (.ok none)
  | some path => (world.loadPrompt memory (some path)).map some

/-- The settings and the diff of an extraction. -/
def inputs (options : ExtractOptions) (world : World) (surroundings : Surroundings) :
    Except Failure (Settings × String) := do
  let settings ← options.settings surroundings.environment
  let diff ← readInput world surroundings options.input
  return (settings, diff)

/-- How the prompt is measured: for the settings' model, unless the option leaves it blank. -/
def meter (options : ExtractOptions) (world : World) (memory : Memory) (settings : Settings) :
    Meter :=
  match options.model with
  | some .blank => .blank
  | _ => .ofModel settings.model (memory.encoderFor world settings.model)

/-- The context of a drafted change; nothing can be taken off a blank ceiling. -/
def conclude (options : ExtractOptions) (settings : Settings) (draft : Draft) :
    Traced FileContext :=
  match options.maxTokens with
  | some .blank => .failure (.blank .difference)
  | _ => draft.conclude settings.budget

/-- Prepares the context of the change that the options and a diff describe. -/
def prepare (options : ExtractOptions) (world : World) (memory : Memory) (settings : Settings)
    (system : Option String) (diff : String) : Outcome FileContext :=
  let change : Change := ⟨options.path, diff, options.oldPath⟩
  Outcome.ofTraced memory world
    ((change.draft settings (memory.parser world true) (options.meter world memory settings)
      ⟨system, options.context⟩).andThen (options.conclude settings))

def run (options : ExtractOptions) (machine : Bool) (world : World) (memory : Memory)
    (surroundings : Surroundings) : Outcome String :=
  (Outcome.ofResult memory (options.inputs world surroundings)).andThen
    fun (settings, diff) memory =>
      (options.loadSystem world memory).andThen fun system memory =>
        (options.prepare world memory settings system diff).map fun context =>
          resultText machine (context.toJson options.includePrompt)

end ExtractOptions

/-- The numbered view of a diff as output. -/
def numberedOutput (machine : Bool) (path : Given String) (numbered : String) : String :=
  if machine then
    resultText machine (.object [("file_path", path.toJson), ("numbered_diff", .text numbered)])
  else numbered ++ "\n"

def liftNumeral {α : Type} : Except Text.NumeralFault α → Except Failure α
  | .ok value => .ok value
  | .error fault => .error (.number fault)

def runNumbered (machine : Bool) (world : World) (surroundings : Surroundings)
    (input : String) (path : Given String) (oldPath : Option (Given String)) :
    Except Failure String := do
  let text ← readInput world surroundings input
  let change : Change := ⟨path, text, oldPath⟩
  let diff ← liftNumeral change.fileDiff
  let numbered ← liftNumeral diff.numbered
  return numberedOutput machine path numbered

/-- The model that is named, or the environment's. -/
def modelFor (environment : Environment) (model : Option String) : Except Failure String :=
  match model.filter fun name => !name.isEmpty with
  | some name => .ok name
  | none =>
    match environment.settings with
    | .ok settings => .ok settings.model
    | .error fault => .error (.setting fault)

def tokensJson (input model : String) (tokens : Nat) (estimate : Bool) : Json :=
  .object
    [("file", .text input), ("model", .text model), ("tokens", .int tokens),
      ("estimated", .bool estimate)]

/-- The text to measure and the model to measure it for. -/
def tokensInputs (world : World) (surroundings : Surroundings) (input : String)
    (model : Option String) : Except Failure (String × String) := do
  let text ← readInput world surroundings input
  let model ← modelFor surroundings.environment model
  return (text, model)

def runTokens (machine : Bool) (world : World) (memory : Memory) (surroundings : Surroundings)
    (input : String) (model : Option String) (estimate : Bool) : Outcome String :=
  (Outcome.ofResult memory (tokensInputs world surroundings input model)).andThen
    fun (text, model) memory =>
      (if estimate then Outcome.ofResult memory (.ok (estimateTokens text))
        else world.countTokens memory model text).map fun tokens =>
          resultText machine (tokensJson input model tokens estimate)

/-- The result of a request as text. -/
def workOf (machine : Bool) (request : Request) (world : World) (memory : Memory)
    (surroundings : Surroundings) : Outcome String :=
  match request with
  | .extract options => options.run machine world memory surroundings
  | .numbered input path oldPath =>
    Outcome.ofResult memory (runNumbered machine world surroundings input path oldPath)
  | .tokens input model estimate =>
    runTokens machine world memory surroundings input model estimate

/-- The output of an invocation. -/
def outcomeOf (invocation : Invocation) (world : World) (memory : Memory)
    (surroundings : Surroundings) : Outcome String :=
  (workOf invocation.machine invocation.request world memory surroundings).andThen
    fun output memory => Outcome.ofResult memory (printed surroundings output)

/-- Runs an argument list. -/
def run (arguments : List String) (world : World) (memory : Memory)
    (surroundings : Surroundings) : Exit × Memory :=
  match readInvocation arguments with
  | .error stop => (stop.exit, memory)
  | .ok invocation =>
    let memory := memory.setUpJournal invocation.verbosity
    let outcome := outcomeOf invocation world memory surroundings
    (exitOf memory.verbosity invocation.machine outcome, outcome.memory)

end ReviewContext.Command

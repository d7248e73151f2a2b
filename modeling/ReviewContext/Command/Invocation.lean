import ReviewContext.Command.Grammar
import ReviewContext.Settings.Extension

/-!
# Invocations

What an argument list asks for: one of three commands, in readable or machine-readable form, with
more or less of the journal.
-/

namespace ReviewContext.Command

/-- The options of an extraction. Blanks are kept where they do not count as absent. -/
structure ExtractOptions where
  input : String
  path : Given String
  oldPath : Option (Given String)
  maxChars : Option (Given Int)
  maxLines : Option (Given Int)
  radius : Option (Given Int)
  timeout : Option (Given Int)
  maxDepth : Option (Given Int)
  model : Option (Given String)
  maxTokens : Option (Given Int)
  reserved : Option (Given Int)
  extensions : Option String
  systemPrompt : Option String
  context : Option String
  includePrompt : Bool
  estimate : Bool
  deriving DecidableEq, Repr

inductive Request where
  | extract (options : ExtractOptions)
  | numbered (input : String) (path : Given String) (oldPath : Option (Given String))
  | tokens (input : String) (model : Option String) (estimate : Bool)
  deriving DecidableEq, Repr

structure Invocation where
  machine : Bool
  verbosity : Nat
  request : Request
  deriving DecidableEq, Repr

/-- An option of the given long name. -/
def long (key : String) (effect : Effect) : OptionSpec :=
  ⟨key, ["--" ++ key], effect⟩

def helpSpec : OptionSpec :=
  ⟨"help", ["-h", "--help"], .help⟩

def mainSpecs : List OptionSpec :=
  [helpSpec, ⟨"version", ["-V", "--version"], .version⟩, long "machine" .mark,
    ⟨"verbose", ["-v", "--verbose"], .mark⟩]

def diffSpecs : List OptionSpec :=
  [helpSpec, long "path" .takeText, long "old-path" .takeText]

def extractSpecs : List OptionSpec :=
  diffSpecs ++
    [long "max-chars" .takeInteger, long "max-lines" .takeInteger, long "radius" .takeInteger,
      long "timeout-ms" .takeInteger, long "max-depth" .takeInteger, long "model" .takeText,
      long "max-tokens" .takeInteger, long "reserved" .takeInteger, long "extensions" .takeText,
      long "system-prompt" .takeText, long "context" .takeText, long "include-prompt" .mark,
      long "estimate" .mark]

def tokensSpecs : List OptionSpec :=
  [helpSpec, long "model" .takeText, long "estimate" .mark]

/-- The single word of the positional argument, which is required. -/
def requiredInput (reading : Reading) : Except Stop String :=
  match reading.positional with
  | some [input] => .ok input
  | _ => .error .usage

def required (reading : Reading) (key : String) : Except Stop (Given String) :=
  match reading.last? key with
  | some given => .ok given
  | none => .error .usage

def readExtract (reading : Reading) : Except Stop Request := do
  let input ← requiredInput reading
  let path ← required reading "path"
  return .extract {
    input := input
    path := path
    oldPath := reading.last? "old-path"
    maxChars := reading.lastInteger? "max-chars"
    maxLines := reading.lastInteger? "max-lines"
    radius := reading.lastInteger? "radius"
    timeout := reading.lastInteger? "timeout-ms"
    maxDepth := reading.lastInteger? "max-depth"
    model := reading.last? "model"
    maxTokens := reading.lastInteger? "max-tokens"
    reserved := reading.lastInteger? "reserved"
    extensions := reading.lastText? "extensions"
    systemPrompt := reading.lastText? "system-prompt"
    context := reading.lastText? "context"
    includePrompt := reading.has "include-prompt"
    estimate := reading.has "estimate"
  }

def readNumbered (reading : Reading) : Except Stop Request := do
  let input ← requiredInput reading
  let path ← required reading "path"
  return .numbered input path (reading.last? "old-path")

def readTokens (reading : Reading) : Except Stop Request := do
  let input ← requiredInput reading
  return .tokens input (reading.lastText? "model") (reading.has "estimate")

/-- Reads the arguments of a command, and the words it leaves over. -/
def readCommand (name : String) (arguments : List String) :
    Except Stop (Request × List String) := do
  let (specs, read) ←
    match name with
    | "extract" => .ok (extractSpecs, readExtract)
    | "numbered" => .ok (diffSpecs, readNumbered)
    | "tokens" => .ok (tokensSpecs, readTokens)
    | _ => .error .usage
  let reading ← readArguments specs .single arguments
  return (← read reading, reading.leftover)

/-- Reads a whole argument list; words left over anywhere are an error. -/
def readInvocation (arguments : List String) : Except Stop Invocation := do
  let reading ← readArguments mainSpecs .subcommand arguments
  match reading.positional with
  | some (name :: rest) =>
    let (request, left) ← readCommand name rest
    if left.isEmpty && reading.leftover.isEmpty then
      return ⟨reading.has "machine", reading.count "verbose", request⟩
    else .error .usage
  | _ => .error .usage

end ReviewContext.Command

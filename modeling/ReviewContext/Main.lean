import ReviewContext.Command.Run

/-!
# The command line

The process around `Command.run`: it gathers the environment, the standard input and the files that
the arguments name, and writes what the command leaves. No grammar and no tokenizer is at hand here,
so blocks are textual and exact counts are refused.
-/

namespace ReviewContext.Process

/-- The names of the files that an invocation reads. -/
def inputNames (invocation : Command.Invocation) : List String :=
  match invocation.request with
  | .extract options => options.input :: options.systemPrompt.toList
  | .numbered input _ _ => [input]
  | .tokens input _ _ => [input]

/-- The variables that settings are read from. -/
def variableNames : List String :=
  ["AST_MAX_CHARS", "AST_MAX_LINES", "AST_TIMEOUT_MS", "AST_MAX_DEPTH", "AST_MAX_NODES",
    "WINDOW_RADIUS", "MAX_TOKENS", "RESERVED_OUTPUT_TOKENS", "MODEL", "SUPPORTED_EXTENSIONS",
    "EXACT_TOKENS"].map Environment.variableName

/-- The values of the variables that are set. -/
def environmentOf (values : List (String × String)) : Environment :=
  fun name => values.lookup name

/-- The error of importing a package that is not installed. -/
def notInstalled (name : String) : ForeignError :=
  ⟨.other, "No module named '" ++ name ++ "'"⟩

/-- The world of a process: what its files hold, and no packages. -/
def worldOf (files : Files) : World where
  listings := []
  missing :=
    [Package.binding, .python, .javascript, .typescript, .go].map fun package =>
      (package, notInstalled package.name)
  tokenizer := .failing (notInstalled "tiktoken")
  files := files

/-- The locales in which the standard streams let ill-formed bytes pass. -/
def escapingLocales : List String :=
  ["C", "POSIX", "C.UTF-8", "C.utf8", "UTF-8"]

/-- The locale, by the first of some variables that is set and not empty. -/
def localeOf (values : List String) : String :=
  (values.find? fun value => !value.isEmpty).getD "C"

/-- The codec of the standard streams in a locale. Private characters stand for escaped bytes. -/
def codecOf (locale : String) : Text.Codec :=
  if escapingLocales.contains locale then
    .utf8Escaping fun byte => Char.ofNat (0xef00 + byte.toNat)
  else .utf8

/-- What stands at a name, if anything does. -/
def readEntry (name : String) : IO (Option Entry) := do
  try
    return some (.file (← IO.FS.readBinFile name).toList)
  catch
    | .inappropriateType _ _ _ => return some .directory
    | _ => return none

/-- The paths that are passed on the way to a name, the name last. -/
def waypoints (name : String) : List String :=
  let steps := PathText.steps name
  (List.range steps.length).map fun n => "/".intercalate (steps.take (n + 1))

def gatherFiles (names : List String) : IO Files :=
  (names.flatMap waypoints).foldlM
    (fun files name => do
      match ← readEntry name with
      | some entry => return files.write name entry
      | none => return files)
    Files.empty

def gatherLocale : IO String := do
  return localeOf (← ["LC_ALL", "LC_CTYPE", "LANG"].filterMapM fun name => IO.getEnv name)

def gatherVariables : IO (List (String × String)) :=
  variableNames.filterMapM fun name => do
    return (← IO.getEnv name).map (name, ·)

def gatherInput (names : List String) : IO (List UInt8) := do
  if names.contains "-" then
    return (← (← IO.getStdin).readBinToEnd).toList
  else return []

/-- Writes what a finished command leaves, and its exit code. Arguments that could not be read leave
one line. -/
def finish (codec : Text.Codec) (exit : Command.Exit) : IO UInt32 := do
  if let .ok bytes := codec.encode exit.output then
    (← IO.getStdout).write bytes.toByteArray
  match exit.errors with
  | some errors => IO.eprint errors
  | none => if exit.code ≠ 0 then IO.eprintln "diffscope: error: invalid arguments"
  return exit.code.toUInt32

end ReviewContext.Process

open ReviewContext in
def main (arguments : List String) : IO UInt32 := do
  let names :=
    match Command.readInvocation arguments with
    | .ok invocation => Process.inputNames invocation
    | .error _ => []
  let files ← Process.gatherFiles (names.filter fun name => name ≠ "-")
  let values ← Process.gatherVariables
  let input ← Process.gatherInput names
  let codec := Process.codecOf (← Process.gatherLocale)
  Process.finish codec
    (Command.run arguments (Process.worldOf files) Memory.empty
      ⟨Process.environmentOf values, codec, input⟩).1

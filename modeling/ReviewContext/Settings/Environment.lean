import ReviewContext.Settings.Basic

/-!
# Settings from the environment

Variables with a common beginning replace single settings. A blank value counts as absent. Integers
are read as numerals, a switch is on for four words, and a list has its parts separated by commas.
The first value that is no integer is refused before any range is checked.
-/

namespace ReviewContext

open ReviewContext.Text

/-- The value of a variable if it is set. -/
abbrev Environment := String → Option String

namespace Environment

def variableName (suffix : String) : String :=
  "DIFFSCOPE_" ++ suffix

/-- The trimmed value of a variable unless it is absent or blank. -/
def value? (environment : Environment) (suffix : String) : Option String :=
  ((environment (variableName suffix)).filter fun text => !isBlank text).map trim

def integer? (environment : Environment) (suffix : String) :
    Except SettingFault (Option Int) :=
  match environment.value? suffix with
  | none => .ok none
  | some text =>
    match readInteger? text with
    | some n => .ok (some n)
    | none => .error (.notInteger (variableName suffix) text)

def isSwitchedOn (text : String) : Bool :=
  ["1", "true", "yes", "on"].contains (lower text)

def changes (environment : Environment) : Except SettingFault Settings.Changes := do
  let maxBlockChars ← environment.integer? "AST_MAX_CHARS"
  let maxBlockLines ← environment.integer? "AST_MAX_LINES"
  let parseTimeout ← environment.integer? "AST_TIMEOUT_MS"
  let maxDepth ← environment.integer? "AST_MAX_DEPTH"
  let maxNodes ← environment.integer? "AST_MAX_NODES"
  let windowRadius ← environment.integer? "WINDOW_RADIUS"
  let tokenCeiling ← environment.integer? "MAX_TOKENS"
  let reservedTokens ← environment.integer? "RESERVED_OUTPUT_TOKENS"
  return {
    maxBlockChars, maxBlockLines, parseTimeout, maxDepth, maxNodes, windowRadius, tokenCeiling,
    reservedTokens,
    model := environment.value? "MODEL"
    extensions := (environment.value? "SUPPORTED_EXTENSIONS").map Extension.splitList
    exactTokens := (environment.value? "EXACT_TOKENS").map isSwitchedOn
  }

def settings (environment : Environment) : Except SettingFault Settings := do
  Settings.make (← environment.changes)

end Environment

end ReviewContext

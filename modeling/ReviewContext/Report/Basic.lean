import ReviewContext.Json.Given
import ReviewContext.Text.Numeral

/-!
# Reports

A report tells a caller's program what went wrong: a code, a message and details. An error report
ends the work, a warning goes along with a result.
-/

namespace ReviewContext

open ReviewContext.Text

inductive Code where
  | parse
  | timeout
  | depth
  | nodes
  | capability
  | unsupported
  | budget
  | tokenizer
  | config
  | notFound
  | internal
  deriving DecidableEq, Repr

def Code.text : Code → String
  | .parse => "DIFFSCOPE_ERR_PARSE"
  | .timeout => "DIFFSCOPE_ERR_TIMEOUT"
  | .depth => "DIFFSCOPE_ERR_DEPTH"
  | .nodes => "DIFFSCOPE_ERR_NODES"
  | .capability => "DIFFSCOPE_ERR_CAPABILITY"
  | .unsupported => "DIFFSCOPE_ERR_UNSUPPORTED"
  | .budget => "DIFFSCOPE_ERR_BUDGET"
  | .tokenizer => "DIFFSCOPE_ERR_TOKENIZER"
  | .config => "DIFFSCOPE_ERR_CONFIG"
  | .notFound => "DIFFSCOPE_ERR_NOT_FOUND"
  | .internal => "DIFFSCOPE_ERR_INTERNAL"

structure Report where
  isError : Bool
  code : String
  message : String
  details : List (String × Json)

namespace Report

def error (code message : String) (details : List (String × Json)) : Report :=
  ⟨true, code, message, details⟩

def warning (code message : String) (details : List (String × Json)) : Report :=
  ⟨false, code, message, details⟩

def notFound (itemType name : String) : Report :=
  error Code.notFound.text (itemType ++ " '" ++ name ++ "' not found")
    [("type", .text itemType), ("name", .text name)]

/-- A prompt that leaves no room in the budget. -/
def overBudget (path : Given String) (tokens ceiling reserved : Int) : Report :=
  warning Code.budget.text
    ("Prompt for " ++ path.shown ++ " uses " ++ numeral tokens ++ " tokens; budget " ++
      numeral ceiling ++ " with " ++ numeral reserved ++ " reserved for output is exhausted")
    [("file", path.toJson), ("prompt_tokens", .int tokens), ("ceiling", .int ceiling),
      ("reserved", .int reserved)]

def toJson (report : Report) : Json :=
  .object
    [("error", .bool report.isError), ("code", .text report.code),
      ("message", .text report.message), ("details", .object report.details)]

end Report

end ReviewContext

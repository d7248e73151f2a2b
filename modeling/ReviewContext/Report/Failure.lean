import ReviewContext.Report.Basic
import ReviewContext.Text.Quoted

/-!
# Failures

The causes for which an operation gives no result, each with its message.
-/

namespace ReviewContext

open ReviewContext.Text

/-- A setting outside its range, or an environment value that is no integer. -/
inductive SettingFault where
  | notPositive (name : String) (value : Int)
  | negative (name : String) (value : Int)
  | notInteger (variableName text : String)
  deriving DecidableEq, Repr

def SettingFault.message : SettingFault → String
  | .notPositive name value => name ++ " must be positive, got " ++ numeral value
  | .negative name value => name ++ " must be >= 0, got " ++ numeral value
  | .notInteger variableName text => variableName ++ " must be an integer, got " ++ quoted text

/-- Why a file cannot be opened. -/
inductive FileFault where
  | missing
  | isDirectory
  | notDirectory
  | nameTooLong
  deriving DecidableEq, Repr

def FileFault.number : FileFault → Nat
  | .missing => 2
  | .notDirectory => 20
  | .isDirectory => 21
  | .nameTooLong => 36

def FileFault.reason : FileFault → String
  | .missing => "No such file or directory"
  | .notDirectory => "Not a directory"
  | .isDirectory => "Is a directory"
  | .nameTooLong => "File name too long"

def FileFault.message (fault : FileFault) (name : String) : String :=
  "[Errno " ++ toString fault.number ++ "] " ++ fault.reason ++ ": " ++ quoted name

/-- What a blank was used for where only a value will do. -/
inductive BlankUse where
  | positive
  | nonnegative
  | difference
  | path
  | model
  deriving DecidableEq, Repr

def BlankUse.message : BlankUse → String
  | .positive => "'<=' not supported between instances of 'list' and 'int'"
  | .nonnegative => "'<' not supported between instances of 'list' and 'int'"
  | .difference => "unsupported operand type(s) for -: 'list' and 'int'"
  | .path => "'list' object has no attribute 'replace'"
  | .model => "unhashable type: 'list'"

/-- What an error of a package counts as. A missing file may be named. -/
inductive ForeignKind where
  | missingFile (name : Option String)
  | unusableValue
  | other
  deriving DecidableEq, Repr

/-- An error that a package raises. -/
structure ForeignError where
  kind : ForeignKind
  message : String
  deriving DecidableEq, Repr

inductive Failure where
  | setting (fault : SettingFault)
  | number (fault : NumeralFault)
  | nulInPath
  | illFormedText (message : String)
  | unwritableText (message : String)
  | infiniteLine
  | nestedTooDeep
  | uncountableTime
  | blank (use : BlankUse)
  | tokenizer (error : ForeignError)
  | binding (error : ForeignError)
  | file (fault : FileFault) (name : String)
  deriving DecidableEq, Repr

namespace ForeignError

def report (error : ForeignError) : Report :=
  match error.kind with
  | .missingFile name =>
    Report.notFound "file" ((name.filter fun name => !name.isEmpty).getD error.message)
  | .unusableValue => Report.error Code.config.text error.message []
  | .other => Report.error Code.internal.text error.message []

end ForeignError

namespace Failure

def message : Failure → String
  | setting fault => fault.message
  | number fault => fault.message
  | nulInPath => "embedded null byte"
  | illFormedText message | unwritableText message => message
  | infiniteLine => "cannot convert float infinity to integer"
  | nestedTooDeep => "maximum recursion depth exceeded while getting the repr of an object"
  | uncountableTime => "int too large to convert to float"
  | blank use => use.message
  | tokenizer error | binding error => error.message
  | file fault name => fault.message name

/-- The error report of a failure: a missing file, a value that cannot be used, or anything else. -/
def report (failure : Failure) : Report :=
  match failure with
  | file .missing name => Report.notFound "file" name
  | tokenizer error | binding error => error.report
  | setting _ | number _ | nulInPath | illFormedText _ | unwritableText _ =>
    Report.error Code.config.text failure.message []
  | file _ _ | infiniteLine | nestedTooDeep | uncountableTime | blank _ =>
    Report.error Code.internal.text failure.message []

end Failure

end ReviewContext

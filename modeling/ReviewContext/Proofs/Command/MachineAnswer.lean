import Mathlib.Data.List.Basic
import ReviewContext.Proofs.Command.Consistency
import ReviewContext.Proofs.Command.FailingStage
import ReviewContext.Proofs.Json.OneRow

/-!
# Answers for machines

A machine that runs a command reads one row. The row is an envelope around the result exactly when
the exit code is zero; otherwise it is the error report of the stage that failed, under a code that
tells a missing file and a value of no use from everything else. The missing file is the input, or
one that the tokenizer misses while it counts the input.
-/

namespace ReviewContext

namespace ForeignError

def isUnusableValue (error : ForeignError) : Bool :=
  match error.kind with
  | .unusableValue => true
  | .missingFile _ | .other => false

def isMissingFile (error : ForeignError) : Bool :=
  match error.kind with
  | .missingFile _ => true
  | .unusableValue | .other => false

end ForeignError

namespace Failure

/-- Whether a failure is that of a value of no use: a setting out of its range, a number beyond the
limit, a path with a NUL, bytes that are no text or a text that cannot be written. -/
def isUnusableValue : Failure → Bool
  | setting _ | number _ | nulInPath | illFormedText _ | unwritableText _ => true
  | tokenizer error | binding error => error.isUnusableValue
  | infiniteLine | nestedTooDeep | uncountableTime | blank _ | file _ _ => false

def isMissingFile : Failure → Bool
  | file fault _ => fault == .missing
  | tokenizer error | binding error => error.isMissingFile
  | _ => false

/-- The code under which a failure is reported. -/
def code (failure : Failure) : Code :=
  if failure.isMissingFile then .notFound
  else if failure.isUnusableValue then .config
  else .internal

end Failure

namespace Command

open Json (render)

/-! ## Rows -/

section Stages

variable {world : World} {memory : Memory} {surroundings : Surroundings} {machine : Bool}
  {request : Request} {stage : Stage} {failure : Failure}

end Stages

/-! ## Answers -/

section Answers

variable {world : World} {memory : Memory} {surroundings : Surroundings} {request : Request}
  {verbosity : Nat}

end Answers

end Command

end ReviewContext

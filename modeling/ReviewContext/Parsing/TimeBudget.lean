import ReviewContext.Number.Binary

/-!
# Time budgets

The time for parsing is given in milliseconds and counted as a binary floating-point number of
seconds. A budget beyond the greatest of these numbers cannot be counted. A budget that can be
counted may still be too long to wait for an answer, because waiting is measured in nanoseconds
below `2 ^ 63`.
-/

namespace ReviewContext.TimeBudget

open ReviewContext.Number

/-- Whether the number nearest to a budget is finite. -/
def isCountable (milliseconds : Int) : Bool :=
  match Binary.ofQuotient (decide (milliseconds < 0)) milliseconds.natAbs 1 with
  | .finite _ _ _ => true
  | _ => false

def nanoseconds (milliseconds : Int) : Int :=
  milliseconds * 1000000

def isWaitable (milliseconds : Int) : Bool :=
  nanoseconds milliseconds < 0x8000000000000000

end ReviewContext.TimeBudget

import ReviewContext.Journal.Event
import ReviewContext.Report.Failure

/-!
# Traced results

A result or the failure in place of it, with the events on the way there. Work in stages goes on
with the result of a stage and keeps the events of all of them in order.
-/

namespace ReviewContext

structure Traced (α : Type) where
  result : Except Failure α
  events : List Event

namespace Traced

variable {α β : Type}

/-- A failure before anything happens. -/
def failure (failure : Failure) : Traced α :=
  ⟨.error failure, []⟩

/-- A result that came about with some events. -/
def success (value : α) (events : List Event) : Traced α :=
  ⟨.ok value, events⟩

def andThen (first : Traced α) (next : α → Traced β) : Traced β :=
  match first.result with
  | .error failure => ⟨.error failure, first.events⟩
  | .ok value => ⟨(next value).result, first.events ++ (next value).events⟩

end Traced

end ReviewContext

import ReviewContext.Proofs.Report.Steps
import ReviewContext.World.Replay

/-!
# Results of replayed work

Only a missing binding makes the replay of events fail. Work in stages fails where its first failing
stage does.
-/

namespace ReviewContext

variable {world : World}

namespace Memory

theorem failure_encoderSought (memory : Memory) (world : World) (model : String) :
    (memory.trailOf world (.encoderSought model)).failure = none := by
  simp only [trailOf, seekEncoder]
  split
  · rfl
  · split <;> rfl

theorem binding_of_failure_trailOf {memory : Memory} {event : Event} {failure : Failure}
    (hfailure : (memory.trailOf world event).failure = some failure) :
    ∃ error, failure = .binding error := by
  cases event with
  | grammarSought grammar =>
    simp only [trailOf, seekGrammar] at hfailure
    split at hfailure
    · split at hfailure
      · obtain ⟨error, -, rfl⟩ := Option.map_eq_some_iff.mp hfailure
        exact ⟨error, rfl⟩
      · cases hfailure
    · cases hfailure
  | encoderSought model => cases (failure_encoderSought memory world model).symm.trans hfailure
  | _ => cases hfailure

theorem binding_of_failure_replay {memory : Memory} {events : List Event} {failure : Failure}
    (hfailure : (memory.replay world events).failure = some failure) :
    ∃ error, failure = .binding error := by
  induction events generalizing memory with
  | nil => cases hfailure
  | cons event rest ih =>
    rw [replay] at hfailure
    cases hfirst : (memory.trailOf world event).failure with
    | some first =>
      simp only [hfirst, Option.some.injEq] at hfailure
      rw [← hfailure]
      exact binding_of_failure_trailOf hfirst
    | none =>
      simp only [hfirst] at hfailure
      exact ih hfailure

end Memory

namespace Outcome

variable {α β : Type} {failure : Failure}

theorem failure_ofEvents {memory : Memory} {events : List Event} {result : Except Failure α}
    (hfailure : (ofEvents memory world events result).result = .error failure) :
    (∃ error, failure = .binding error) ∨ result = .error failure := by
  unfold ofEvents at hfailure
  cases hreplay : (memory.replay world events).failure with
  | some missing =>
    simp only [hreplay, Except.error.injEq] at hfailure
    rw [← hfailure]
    exact .inl (Memory.binding_of_failure_replay hreplay)
  | none =>
    simp only [hreplay] at hfailure
    exact .inr hfailure

theorem result_map_eq_error {outcome : Outcome α} {f : α → β} :
    (outcome.map f).result = .error failure ↔ outcome.result = .error failure :=
  map_eq_error

theorem result_andThen_eq_error {outcome : Outcome α} {next : α → Memory → Outcome β} :
    (outcome.andThen next).result = .error failure ↔
      outcome.result = .error failure ∨
        ∃ value, outcome.result = .ok value ∧
          (next value outcome.memory).result = .error failure := by
  unfold andThen
  cases outcome.result <;> simp

end Outcome

end ReviewContext

import ReviewContext.World.Basic

/-!
# From events to notes

Events become notes of the journal in the light of what is remembered. A grammar that is sought for
the first time is remembered, and leaves a note when its package cannot be imported. An encoder is
remembered once it is found; each search for it leaves a note when the model is unknown. A grammar
that was found before needs its binding still; without it the work fails there, and what came after
that event never happened.
-/

namespace ReviewContext

/-- What some events leave behind: a memory, notes, and perhaps a failure. -/
structure Trail where
  memory : Memory
  notes : List Note
  failure : Option Failure

namespace Memory

/-- The note that a grammar cannot be had, for the message of an error. -/
def grammarNote (grammar : Grammar) (message : String) : Note :=
  ⟨.debug, Component.grammars, "grammar " ++ grammar.name ++ " unavailable: " ++ message⟩

def encoderNote (model : String) : Note :=
  ⟨.debug, Component.tokens, "no tiktoken mapping for " ++ model ++ ", using cl100k_base"⟩

/-- The notes of the first search for a grammar. A missing binding is passed over in silence. -/
def grammarNotes (world : World) (grammar : Grammar) : List Note :=
  if world.lacks .binding then []
  else
    match world.importError? grammar.package with
    | some error => [grammarNote grammar error.message]
    | none => []

def encoderNotes (world : World) (model : String) : List Note :=
  if world.tokenizer.isUnknown model then [encoderNote model] else []

def seekGrammar (memory : Memory) (world : World) (grammar : Grammar) : Trail :=
  match memory.grammars.lookup grammar with
  | some found =>
    ⟨memory, [], if found then (world.importError? .binding).map Failure.binding else none⟩
  | none =>
    ⟨memory.rememberGrammar grammar (world.hasGrammar grammar), grammarNotes world grammar, none⟩

def seekEncoder (memory : Memory) (world : World) (model : String) : Trail :=
  match memory.encoders.lookup model with
  | some _ => ⟨memory, [], none⟩
  | none =>
    match world.tokenizer.encoderFor model with
    | .ok encoder => ⟨memory.rememberEncoder model encoder, encoderNotes world model, none⟩
    | .error _ => ⟨memory, encoderNotes world model, none⟩

def trailOf (memory : Memory) (world : World) : Event → Trail
  | .grammarSought grammar => memory.seekGrammar world grammar
  | .encoderSought model => memory.seekEncoder world model
  | event => ⟨memory, event.note?.toList, none⟩

/-- Replays events up to the first failure. -/
def replay (memory : Memory) (world : World) : List Event → Trail
  | [] => ⟨memory, [], none⟩
  | event :: rest =>
    let first := memory.trailOf world event
    match first.failure with
    | some failure => ⟨first.memory, first.notes, some failure⟩
    | none =>
      let others := first.memory.replay world rest
      { others with notes := first.notes ++ others.notes }

end Memory

/-- The result of an operation, the memory after it, and its notes. -/
structure Outcome (α : Type) where
  result : Except Failure α
  memory : Memory
  notes : List Note

namespace Outcome

variable {α β : Type}

/-- The outcome of a result that came about with some events. -/
def ofEvents (memory : Memory) (world : World) (events : List Event) (result : Except Failure α) :
    Outcome α :=
  let trail := memory.replay world events
  match trail.failure with
  | some failure => ⟨.error failure, trail.memory, trail.notes⟩
  | none => ⟨result, trail.memory, trail.notes⟩

def ofTraced (memory : Memory) (world : World) (traced : Traced α) : Outcome α :=
  ofEvents memory world traced.events traced.result

/-- An outcome that consults nothing. -/
def ofResult (memory : Memory) (result : Except Failure α) : Outcome α :=
  ⟨result, memory, []⟩

/-- Goes on with the value of an outcome and its memory. -/
def andThen (outcome : Outcome α) (next : α → Memory → Outcome β) : Outcome β :=
  match outcome.result with
  | .error failure => ⟨.error failure, outcome.memory, outcome.notes⟩
  | .ok value =>
    let following := next value outcome.memory
    { following with notes := outcome.notes ++ following.notes }

def map (f : α → β) (outcome : Outcome α) : Outcome β :=
  ⟨outcome.result.map f, outcome.memory, outcome.notes⟩

end Outcome

end ReviewContext

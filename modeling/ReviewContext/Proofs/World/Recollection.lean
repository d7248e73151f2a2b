import ReviewContext.Proofs.World.Replay

/-!
# What a memory stands for

A memory agrees with a world when it holds nothing else than what would be found there now. In a
world that stays as it is, such a memory answers every question as an empty one does. What it
changes is the journal: the search for a grammar or an encoder may leave a note, and a memory
recalls the notes of the searches whose results it holds, for they are not made again.
-/

namespace ReviewContext

theorem mem_of_lookup_eq_some {α β : Type} [BEq α] [LawfulBEq α] {entries : List (α × β)} {key : α}
    {value : β}
    (hlookup : entries.lookup key = some value) :
    (key, value) ∈ entries := by
  obtain ⟨front, behind, rfl, -⟩ := List.lookup_eq_some_iff.mp hlookup
  exact List.mem_append_right front List.mem_cons_self

namespace Memory

/-! ## Agreement -/

/-- All that is remembered is found in the world as well. -/
structure Agrees (memory : Memory) (world : World) : Prop where
  grammars : ∀ entry ∈ memory.grammars, entry.2 = world.hasGrammar entry.1
  encoders : ∀ entry ∈ memory.encoders, world.tokenizer.encoderFor entry.1 = .ok entry.2
  prompts : ∀ entry ∈ memory.prompts, world.files.readText entry.1 = .ok entry.2

theorem agrees_empty (world : World) : Memory.empty.Agrees world := by
  constructor <;> simp [Memory.empty]

section Agrees

variable {memory : Memory} {world : World}

theorem Agrees.findsGrammar_eq (hagrees : memory.Agrees world) (grammar : Grammar) :
    memory.findsGrammar world grammar = world.hasGrammar grammar := by
  unfold findsGrammar
  cases hlookup : memory.grammars.lookup grammar with
  | none => rfl
  | some found => exact hagrees.grammars _ (mem_of_lookup_eq_some hlookup)

theorem Agrees.kit_eq (hagrees : memory.Agrees world) :
    memory.kit world = Memory.empty.kit world := by
  simp only [kit, hagrees.findsGrammar_eq, (agrees_empty world).findsGrammar_eq]

theorem Agrees.encoderFor_eq (hagrees : memory.Agrees world) (model : String) :
    memory.encoderFor world model = world.tokenizer.encoderFor model := by
  unfold encoderFor
  cases hlookup : memory.encoders.lookup model with
  | none => rfl
  | some encoder => exact (hagrees.encoders _ (mem_of_lookup_eq_some hlookup)).symm

/-- An encoder that cannot be had is not remembered. -/
theorem Agrees.lookup_encoders_eq_none {model : String} {error : ForeignError}
    (hagrees : memory.Agrees world)
    (hfails : world.tokenizer.encoderFor model = .error error) :
    memory.encoders.lookup model = none := by
  rw [Option.eq_none_iff_forall_ne_some]
  intro encoder hlookup
  have hfound := hagrees.encoders _ (mem_of_lookup_eq_some hlookup)
  rw [hfails] at hfound
  cases hfound

theorem Agrees.rememberGrammar (hagrees : memory.Agrees world) (grammar : Grammar) :
    (memory.rememberGrammar grammar (world.hasGrammar grammar)).Agrees world := by
  refine ⟨?_, hagrees.encoders, hagrees.prompts⟩
  intro entry hentry
  rcases List.mem_cons.mp hentry with rfl | hold
  · rfl
  · exact hagrees.grammars entry hold

theorem Agrees.rememberEncoder {model : String} {encoder : Encoder}
    (hagrees : memory.Agrees world)
    (hfound : world.tokenizer.encoderFor model = .ok encoder) :
    (memory.rememberEncoder model encoder).Agrees world := by
  refine ⟨hagrees.grammars, ?_, hagrees.prompts⟩
  intro entry hentry
  rcases List.mem_cons.mp hentry with rfl | hold
  · exact hfound
  · exact hagrees.encoders entry hold

theorem Agrees.rememberPrompt {path text : String} (hagrees : memory.Agrees world)
    (hread : world.files.readText path = .ok text) :
    (memory.rememberPrompt path text).Agrees world := by
  refine ⟨hagrees.grammars, hagrees.encoders, ?_⟩
  intro entry hentry
  rcases List.mem_cons.mp (List.mem_of_mem_take hentry) with rfl | hold
  · exact hread
  · exact hagrees.prompts entry (List.mem_filter.mp hold).1

theorem Agrees.forgetPrompts (hagrees : memory.Agrees world) :
    memory.forgetPrompts.Agrees world :=
  ⟨hagrees.grammars, hagrees.encoders, by simp [Memory.forgetPrompts]⟩

theorem Agrees.setUpJournal (hagrees : memory.Agrees world) (verbosity : Nat) :
    (memory.setUpJournal verbosity).Agrees world := by
  unfold Memory.setUpJournal
  split
  · exact ⟨hagrees.grammars, hagrees.encoders, hagrees.prompts⟩
  · exact hagrees

/-- A grammar that was found in this world has its binding there. -/
theorem Agrees.failure_seekGrammar (hagrees : memory.Agrees world) (grammar : Grammar) :
    (memory.seekGrammar world grammar).failure = none := by
  unfold seekGrammar
  cases hlookup : memory.grammars.lookup grammar with
  | none => rfl
  | some found =>
    have hfound : found = world.hasGrammar grammar :=
      hagrees.grammars _ (mem_of_lookup_eq_some hlookup)
    rw [hfound, World.hasGrammar, World.lacks]
    cases world.importError? .binding <;> simp

theorem Agrees.memory_seekGrammar (hagrees : memory.Agrees world) (grammar : Grammar) :
    (memory.seekGrammar world grammar).memory.Agrees world := by
  unfold seekGrammar
  split
  · exact hagrees
  · exact hagrees.rememberGrammar grammar

theorem Agrees.memory_seekEncoder (hagrees : memory.Agrees world) (model : String) :
    (memory.seekEncoder world model).memory.Agrees world := by
  unfold seekEncoder
  split
  · exact hagrees
  · split
    · rename_i encoder hencoder
      exact hagrees.rememberEncoder hencoder
    · exact hagrees

theorem Agrees.trailOf (hagrees : memory.Agrees world) (event : Event) :
    (memory.trailOf world event).failure = none ∧
      (memory.trailOf world event).memory.Agrees world := by
  cases event with
  | grammarSought grammar =>
    exact ⟨hagrees.failure_seekGrammar grammar, hagrees.memory_seekGrammar grammar⟩
  | encoderSought model =>
    exact ⟨failure_encoderSought memory world model, hagrees.memory_seekEncoder model⟩
  | _ => exact ⟨rfl, hagrees⟩

/-- No work fails for a binding that is gone, in a world that a memory agrees with. -/
theorem Agrees.failure_replay (hagrees : memory.Agrees world) (events : List Event) :
    (memory.replay world events).failure = none := by
  induction events generalizing memory with
  | nil => rfl
  | cons event rest ih =>
    obtain ⟨hfailure, hnext⟩ := hagrees.trailOf event
    simp only [replay, hfailure]
    exact ih hnext

/-- In such a world, work comes out as it was traced. -/
theorem Agrees.result_ofTraced {α : Type} (hagrees : memory.Agrees world) (traced : Traced α) :
    (Outcome.ofTraced memory world traced).result = traced.result := by
  simp only [Outcome.ofTraced, Outcome.ofEvents, hagrees.failure_replay]

end Agrees

/-! ## Recalled notes -/

/-- Whether a note is that of a search whose result is remembered. -/
def recalls (memory : Memory) (world : World) (note : Note) : Bool :=
  (memory.grammars.any fun entry => (grammarNotes world entry.1).contains note) ||
    memory.encoders.any fun entry => (encoderNotes world entry.1).contains note

section Notes

variable {world : World} {note : Note}

theorem grammarNote_injective {first second : Grammar} {message other : String}
    (hnote : grammarNote first message = grammarNote second other) :
    first = second := by
  have hchars := congrArg (fun note : Note => note.message.toList) hnote
  cases first <;> cases second <;> simp [grammarNote, Grammar.name] at hchars ⊢

theorem encoderNote_injective : Function.Injective encoderNote := by
  intro first second hnote
  apply String.toList_injective
  have hmessage := congrArg (fun note : Note => note.message.toList) hnote
  simpa [encoderNote] using hmessage

theorem exists_eq_of_mem_grammarNotes {grammar : Grammar}
    (hnote : note ∈ grammarNotes world grammar) :
    ∃ message, note = grammarNote grammar message := by
  unfold grammarNotes at hnote
  split at hnote
  · simp at hnote
  · split at hnote
    · exact ⟨_, List.mem_singleton.mp hnote⟩
    · simp at hnote

theorem eq_of_mem_encoderNotes {model : String} (hnote : note ∈ encoderNotes world model) :
    note = encoderNote model := by
  unfold encoderNotes at hnote
  split at hnote
  · exact List.mem_singleton.mp hnote
  · simp at hnote

theorem component_of_mem_grammarNotes {grammar : Grammar}
    (hnote : note ∈ grammarNotes world grammar) :
    note.component = Component.grammars := by
  obtain ⟨message, rfl⟩ := exists_eq_of_mem_grammarNotes hnote
  rfl

theorem component_of_mem_encoderNotes {model : String}
    (hnote : note ∈ encoderNotes world model) :
    note.component = Component.tokens := by
  rw [eq_of_mem_encoderNotes hnote]
  rfl

/-- A note of a search comes from no other search. -/
theorem grammar_eq_of_mem_grammarNotes {first second : Grammar}
    (hfirst : note ∈ grammarNotes world first)
    (hsecond : note ∈ grammarNotes world second) :
    first = second := by
  obtain ⟨message, rfl⟩ := exists_eq_of_mem_grammarNotes hfirst
  obtain ⟨other, hother⟩ := exists_eq_of_mem_grammarNotes hsecond
  exact grammarNote_injective hother

theorem notMem_encoderNotes_of_mem_grammarNotes {grammar : Grammar} (model : String)
    (hnote : note ∈ grammarNotes world grammar) :
    note ∉ encoderNotes world model := by
  intro hother
  have hcomponents : Component.grammars = Component.tokens :=
    (component_of_mem_grammarNotes hnote).symm.trans (component_of_mem_encoderNotes hother)
  revert hcomponents
  decide

end Notes

variable {memory : Memory} {world : World} {note : Note}

theorem recalls_eq_true :
    memory.recalls world note = true ↔
      (∃ entry ∈ memory.grammars, note ∈ grammarNotes world entry.1) ∨
        ∃ entry ∈ memory.encoders, note ∈ encoderNotes world entry.1 := by
  simp [recalls]

theorem recalls_empty (note : Note) : Memory.empty.recalls world note = false := rfl

theorem recalls_of_mem_grammarNotes {grammar : Grammar}
    (hnote : note ∈ grammarNotes world grammar) :
    memory.recalls world note = (memory.grammars.lookup grammar).isSome := by
  rw [Bool.eq_iff_iff, List.lookup_isSome_iff, recalls_eq_true]
  constructor
  · rintro (⟨entry, hentry, hother⟩ | ⟨entry, hentry, hother⟩)
    · exact ⟨entry, hentry, by simpa using grammar_eq_of_mem_grammarNotes hnote hother⟩
    · exact absurd hother (notMem_encoderNotes_of_mem_grammarNotes _ hnote)
  · rintro ⟨entry, hentry, hkey⟩
    rw [beq_iff_eq] at hkey
    exact .inl ⟨entry, hentry, hkey ▸ hnote⟩

theorem recalls_of_mem_encoderNotes {model : String}
    (hnote : note ∈ encoderNotes world model) :
    memory.recalls world note = (memory.encoders.lookup model).isSome := by
  rw [Bool.eq_iff_iff, List.lookup_isSome_iff, recalls_eq_true]
  constructor
  · rintro (⟨entry, hentry, hother⟩ | ⟨entry, hentry, hother⟩)
    · exact absurd hnote (notMem_encoderNotes_of_mem_grammarNotes _ hother)
    · have hmodel :=
        (eq_of_mem_encoderNotes hnote).symm.trans (eq_of_mem_encoderNotes hother)
      exact ⟨entry, hentry, by simpa using encoderNote_injective hmodel⟩
  · rintro ⟨entry, hentry, hkey⟩
    rw [beq_iff_eq] at hkey
    exact .inr ⟨entry, hentry, hkey ▸ hnote⟩

theorem recalls_rememberGrammar (grammar : Grammar) (found : Bool) (note : Note) :
    (memory.rememberGrammar grammar found).recalls world note =
      ((grammarNotes world grammar).contains note || memory.recalls world note) := by
  simp [recalls, rememberGrammar, Bool.or_assoc]

theorem recalls_rememberEncoder (model : String) (encoder : Encoder) (note : Note) :
    (memory.rememberEncoder model encoder).recalls world note =
      ((encoderNotes world model).contains note || memory.recalls world note) := by
  simp [recalls, rememberEncoder, Bool.or_left_comm]

theorem recalls_forgetPrompts (note : Note) :
    memory.forgetPrompts.recalls world note = memory.recalls world note := rfl

theorem recalls_setUpJournal (verbosity : Nat) (note : Note) :
    (memory.setUpJournal verbosity).recalls world note = memory.recalls world note := by
  unfold setUpJournal
  split <;> rfl

theorem component_of_recalls (hrecalls : memory.recalls world note = true) :
    note.component = Component.grammars ∨ note.component = Component.tokens := by
  rcases recalls_eq_true.mp hrecalls with ⟨entry, -, hnote⟩ | ⟨entry, -, hnote⟩
  · exact .inl (component_of_mem_grammarNotes hnote)
  · exact .inr (component_of_mem_encoderNotes hnote)

theorem level_of_recalls (hrecalls : memory.recalls world note = true) : note.level = .debug := by
  rcases recalls_eq_true.mp hrecalls with ⟨entry, -, hnote⟩ | ⟨entry, -, hnote⟩
  · obtain ⟨message, rfl⟩ := exists_eq_of_mem_grammarNotes hnote
    rfl
  · rw [eq_of_mem_encoderNotes hnote]
    rfl

/-- Only searches leave notes that are recalled. -/
theorem recalls_note? {event : Event} (hnote : event.note? = some note) :
    memory.recalls world note = false := by
  have hothers : ∀ component ∈ [Component.parsing, Component.selection, Component.fallback,
      Component.engine, Component.prompt],
      component ≠ Component.grammars ∧ component ≠ Component.tokens := by
    decide
  have hcomponent :
      note.component ≠ Component.grammars ∧ note.component ≠ Component.tokens := by
    apply hothers
    cases event with
    | blockDropped oversize => cases oversize <;> cases hnote <;> simp
    | _ => cases hnote <;> simp
  apply Bool.eq_false_iff.mpr
  intro hrecalls
  rcases component_of_recalls hrecalls with hgrammars | htokens
  · exact hcomponent.1 hgrammars
  · exact hcomponent.2 htokens

end Memory

end ReviewContext

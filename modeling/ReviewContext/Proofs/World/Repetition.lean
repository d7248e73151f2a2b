import ReviewContext.Proofs.World.Recollection
import ReviewContext.World.Operation

/-!
# Work done again

Work in a world that stays as it is comes out the same whatever is remembered of this world. Only
its journal is shorter by the notes of searches that need not be made again. Two memories are
compared, one of which has taken up at least the searches of the other; this holds of every piece of
work and goes on to the memories behind it, so it holds of pieces one after the other.
-/

namespace ReviewContext

open ReviewContext.Diff (FileDiff)

/-- A memory that has taken up at least the searches of another one. -/
structure Memory.LeadsOver (held bare : Memory) (world : World) : Prop where
  agrees : held.Agrees world
  bareAgrees : bare.Agrees world
  recalls : ∀ note, bare.recalls world note = true → held.recalls world note = true

theorem Memory.LeadsOver.recalls_eq_or {held bare : Memory} {world : World}
    (hleads : held.LeadsOver bare world) (note : Note) :
    held.recalls world note = (held.recalls world note || bare.recalls world note) := by
  have hkept := hleads.recalls note
  cases hbare : bare.recalls world note <;> simp_all

theorem Memory.Agrees.leadsOver_empty {memory : Memory} {world : World}
    (hagrees : memory.Agrees world) :
    memory.LeadsOver Memory.empty world :=
  ⟨hagrees, agrees_empty world, fun note hrecalls => by simp [recalls_empty] at hrecalls⟩

namespace Outcome

variable {α β : Type} {world : World} {held bare : Memory}

/-- How work by a memory compares with the same work by a memory that it leads over. Both take up
the same searches, and the journal lacks exactly the notes that the first memory recalls. -/
structure Repeats (world : World) (held bare : Memory) (again first : Outcome α) : Prop where
  result : again.result = first.result
  notes : again.notes = first.notes.filter fun note => !held.recalls world note
  fresh : ∀ note ∈ first.notes, bare.recalls world note = false
  recalls : ∀ note, again.memory.recalls world note =
    (held.recalls world note || first.memory.recalls world note)
  keeps : ∀ note, bare.recalls world note = true → first.memory.recalls world note = true
  agrees : again.memory.Agrees world
  firstAgrees : first.memory.Agrees world
  verbosity : again.memory.verbosity = held.verbosity

/-! ## Work in stages -/

theorem Repeats.leadsOver {again first : Outcome α}
    (hrepeats : Repeats world held bare again first) :
    again.memory.LeadsOver first.memory world where
  agrees := hrepeats.agrees
  bareAgrees := hrepeats.firstAgrees
  recalls note hrecalls := by rw [hrepeats.recalls, hrecalls, Bool.or_true]

theorem repeats_ofResult (hleads : held.LeadsOver bare world) (result : Except Failure α) :
    Repeats world held bare (ofResult held result) (ofResult bare result) where
  result := rfl
  notes := rfl
  fresh := by simp [ofResult]
  recalls := hleads.recalls_eq_or
  keeps note hrecalls := hrecalls
  agrees := hleads.agrees
  firstAgrees := hleads.bareAgrees
  verbosity := rfl

/-- What work leaves behind compares in the same way whatever its result is. -/
theorem Repeats.withResult {again first : Outcome α} (result : Except Failure β)
    (hrepeats : Repeats world held bare again first) :
    Repeats world held bare ⟨result, again.memory, again.notes⟩
      ⟨result, first.memory, first.notes⟩ where
  result := rfl
  notes := hrepeats.notes
  fresh := hrepeats.fresh
  recalls := hrepeats.recalls
  keeps := hrepeats.keeps
  agrees := hrepeats.agrees
  firstAgrees := hrepeats.firstAgrees
  verbosity := hrepeats.verbosity

theorem Repeats.map {again first : Outcome α} (f : α → β)
    (hrepeats : Repeats world held bare again first) :
    Repeats world held bare (again.map f) (first.map f) := by
  rw [Outcome.map, Outcome.map, hrepeats.result]
  exact hrepeats.withResult _

def behind (earlier : Outcome α) (outcome : Outcome β) : Outcome β :=
  { outcome with notes := earlier.notes ++ outcome.notes }

theorem Repeats.behind {again first : Outcome α} {again' first' : Outcome β}
    (hfirst : Repeats world held bare again first)
    (hnext : Repeats world again.memory first.memory again' first') :
    Repeats world held bare (again.behind again') (first.behind first') where
  result := hnext.result
  notes := by
    have hnotes :
        (first'.notes.filter fun note => !again.memory.recalls world note) =
          first'.notes.filter fun note => !held.recalls world note := by
      -- the searches in between have left their notes already, so they leave none later
      refine List.filter_congr fun note hnote => ?_
      rw [hfirst.recalls, hnext.fresh note hnote, Bool.or_false]
    simp only [Outcome.behind, hfirst.notes, hnext.notes, hnotes, List.filter_append]
  fresh := by
    intro note hnote
    rcases List.mem_append.mp hnote with hearlier | hlater
    · exact hfirst.fresh note hearlier
    · apply Bool.eq_false_iff.mpr
      intro hrecalls
      have hkept := hfirst.keeps note hrecalls
      rw [hnext.fresh note hlater] at hkept
      cases hkept
  recalls note := by
    have hkept := hnext.keeps note
    simp only [Outcome.behind, hnext.recalls, hfirst.recalls]
    cases hrecalls : first.memory.recalls world note
    · simp
    · simp [hkept hrecalls]
  keeps note hrecalls := hnext.keeps note (hfirst.keeps note hrecalls)
  agrees := hnext.agrees
  firstAgrees := hnext.firstAgrees
  verbosity := hnext.verbosity.trans hfirst.verbosity

theorem andThen_error {outcome : Outcome α} {failure : Failure}
    (hresult : outcome.result = .error failure) (next : α → Memory → Outcome β) :
    outcome.andThen next = ⟨.error failure, outcome.memory, outcome.notes⟩ := by
  rw [andThen, hresult]

theorem andThen_ok {outcome : Outcome α} {value : α}
    (hresult : outcome.result = .ok value) (next : α → Memory → Outcome β) :
    outcome.andThen next = outcome.behind (next value outcome.memory) := by
  rw [andThen, hresult]
  rfl

theorem Repeats.andThen {again first : Outcome α} {next : α → Memory → Outcome β}
    (hfirst : Repeats world held bare again first)
    (hnext : ∀ value (held bare : Memory), held.LeadsOver bare world →
      Repeats world held bare (next value held) (next value bare)) :
    Repeats world held bare (again.andThen next) (first.andThen next) := by
  cases hresult : first.result with
  | error failure =>
    rw [andThen_error hresult, andThen_error (hfirst.result.trans hresult)]
    exact hfirst.withResult _
  | ok value =>
    rw [andThen_ok hresult, andThen_ok (hfirst.result.trans hresult)]
    exact hfirst.behind (hnext value again.memory first.memory hfirst.leadsOver)

/-! ## Events -/

/-- Notes of which neither memory recalls one are left every time. -/
theorem repeats_notes {notes : List Note}
    (hleads : held.LeadsOver bare world)
    (hfresh : ∀ note ∈ notes, held.recalls world note = false) :
    Repeats world held bare ⟨.ok (), held, notes⟩ ⟨.ok (), bare, notes⟩ where
  result := rfl
  notes := by
    refine (List.filter_eq_self.mpr fun note hnote => ?_).symm
    rw [hfresh note hnote, Bool.not_false]
  fresh note hnote := by
    apply Bool.eq_false_iff.mpr
    intro hrecalls
    have hheld := hleads.recalls note hrecalls
    rw [hfresh note hnote] at hheld
    cases hheld
  recalls := hleads.recalls_eq_or
  keeps note hrecalls := hrecalls
  agrees := hleads.agrees
  firstAgrees := hleads.bareAgrees
  verbosity := rfl

/-- What a search leaves that is not made again once its result is held. -/
def ofSearch (memory next : Memory) (isHeld : Bool) (notes : List Note) : Outcome Unit :=
  if isHeld then ofResult memory (.ok ()) else ⟨.ok (), next, notes⟩

theorem repeats_ofSearch {next bareNext : Memory} {notes : List Note} {isHeld isBareHeld : Bool}
    (hleads : held.LeadsOver bare world)
    (hheld : ∀ note ∈ notes, held.recalls world note = isHeld)
    (hbare : ∀ note ∈ notes, bare.recalls world note = isBareHeld)
    (hnext : ∀ note, next.recalls world note =
      (notes.contains note || held.recalls world note))
    (hbareNext : ∀ note, bareNext.recalls world note =
      (notes.contains note || bare.recalls world note))
    (hagrees : next.Agrees world)
    (hbareAgrees : bareNext.Agrees world)
    (hverbosity : next.verbosity = held.verbosity) :
    Repeats world held bare (ofSearch held next isHeld notes)
      (ofSearch bare bareNext isBareHeld notes) := by
  have hbareKeeps (note : Note) (hrecalls : bare.recalls world note = true) :
      bareNext.recalls world note = true := by
    rw [hbareNext, hrecalls, Bool.or_true]
  cases isHeld with
  | true =>
    cases isBareHeld with
    | true => exact repeats_ofResult hleads (.ok ())
    | false =>
      refine ⟨rfl, ?_, hbare, ?_, hbareKeeps, hleads.agrees, hbareAgrees, rfl⟩
      · refine (List.filter_eq_nil_iff.mpr fun note hnote => ?_).symm
        simp [hheld note hnote]
      · intro note
        have hkept := hleads.recalls_eq_or note
        by_cases hnote : note ∈ notes
        · simp [ofSearch, ofResult, hheld note hnote]
        · simpa [ofSearch, ofResult, hbareNext, hnote] using hkept
  | false =>
    cases isBareHeld with
    | false =>
      refine ⟨rfl, ?_, hbare, ?_, hbareKeeps, hagrees, hbareAgrees, hverbosity⟩
      · refine (List.filter_eq_self.mpr fun note hnote => ?_).symm
        simp [hheld note hnote]
      · intro note
        simp only [ofSearch, Bool.false_eq_true, if_false, hnext, hbareNext]
        rw [hleads.recalls_eq_or note]
        cases notes.contains note <;> simp
    | true =>
      -- the bare memory holds no more than the other one, so the search leaves no note
      have hnone : notes = [] := by
        refine List.eq_nil_iff_forall_not_mem.mpr fun note hnote => ?_
        have hrecalls := hleads.recalls note (hbare note hnote)
        rw [hheld note hnote] at hrecalls
        cases hrecalls
      subst hnone
      refine ⟨rfl, rfl, by simp [ofSearch, ofResult], ?_, fun _ hrecalls => hrecalls, hagrees,
        hleads.bareAgrees, hverbosity⟩
      intro note
      simpa [ofSearch, ofResult, hnext] using hleads.recalls_eq_or note

theorem ofEvents_cons (memory : Memory) (world : World) (event : Event) (rest : List Event)
    (result : Except Failure α) :
    ofEvents memory world (event :: rest) result =
      (ofEvents memory world [event] (.ok ())).andThen fun _ memory =>
        ofEvents memory world rest result := by
  cases hfirst : (memory.trailOf world event).failure with
  | some failure => simp only [ofEvents, Memory.replay, hfirst, andThen]
  | none =>
    cases hrest : ((memory.trailOf world event).memory.replay world rest).failure <;>
      simp [ofEvents, Memory.replay, hfirst, hrest, andThen]

/-- In a world that a memory agrees with, no grammar is missed that was found before. -/
theorem ofEvents_grammarSought {memory : Memory} (hagrees : memory.Agrees world)
    (grammar : Grammar) :
    ofEvents memory world [.grammarSought grammar] (.ok ()) =
      ofSearch memory (memory.rememberGrammar grammar (world.hasGrammar grammar))
        (memory.grammars.lookup grammar).isSome (Memory.grammarNotes world grammar) := by
  unfold ofSearch
  cases hlookup : memory.grammars.lookup grammar with
  | some found =>
    have hkept := hagrees.failure_seekGrammar grammar
    simp only [Memory.seekGrammar, hlookup] at hkept
    simp [ofEvents, Memory.replay, Memory.trailOf, Memory.seekGrammar, hlookup, hkept, ofResult]
  | none => simp [ofEvents, Memory.replay, Memory.trailOf, Memory.seekGrammar, hlookup]

theorem ofEvents_encoderSought {memory : Memory} {model : String} {encoder : Encoder}
    (hfound : world.tokenizer.encoderFor model = .ok encoder) :
    ofEvents memory world [.encoderSought model] (.ok ()) =
      ofSearch memory (memory.rememberEncoder model encoder)
        (memory.encoders.lookup model).isSome (Memory.encoderNotes world model) := by
  unfold ofSearch
  cases hlookup : memory.encoders.lookup model <;>
    simp [ofEvents, Memory.replay, Memory.trailOf, Memory.seekEncoder, hlookup, hfound, ofResult]

/-- An encoder that cannot be had is sought again each time. -/
theorem ofEvents_encoderSought_of_error {memory : Memory} {model : String} {error : ForeignError}
    (hagrees : memory.Agrees world)
    (hfails : world.tokenizer.encoderFor model = .error error) :
    ofEvents memory world [.encoderSought model] (.ok ()) =
      ⟨.ok (), memory, Memory.encoderNotes world model⟩ := by
  have hlookup := hagrees.lookup_encoders_eq_none hfails
  simp [ofEvents, Memory.replay, Memory.trailOf, Memory.seekEncoder, hlookup, hfails]

theorem repeats_grammarSought (hleads : held.LeadsOver bare world) (grammar : Grammar) :
    Repeats world held bare (ofEvents held world [.grammarSought grammar] (.ok ()))
      (ofEvents bare world [.grammarSought grammar] (.ok ())) := by
  rw [ofEvents_grammarSought hleads.agrees, ofEvents_grammarSought hleads.bareAgrees]
  exact repeats_ofSearch hleads (fun _ => Memory.recalls_of_mem_grammarNotes)
    (fun _ => Memory.recalls_of_mem_grammarNotes) (Memory.recalls_rememberGrammar grammar _)
    (Memory.recalls_rememberGrammar grammar _) (hleads.agrees.rememberGrammar grammar)
    (hleads.bareAgrees.rememberGrammar grammar) rfl

theorem repeats_encoderSought (hleads : held.LeadsOver bare world) (model : String) :
    Repeats world held bare (ofEvents held world [.encoderSought model] (.ok ()))
      (ofEvents bare world [.encoderSought model] (.ok ())) := by
  cases hencoder : world.tokenizer.encoderFor model with
  | error error =>
    rw [ofEvents_encoderSought_of_error hleads.agrees hencoder,
      ofEvents_encoderSought_of_error hleads.bareAgrees hencoder]
    apply repeats_notes hleads
    intro note hnote
    rw [Memory.recalls_of_mem_encoderNotes hnote,
      hleads.agrees.lookup_encoders_eq_none hencoder, Option.isSome_none]
  | ok encoder =>
    rw [ofEvents_encoderSought hencoder, ofEvents_encoderSought hencoder]
    exact repeats_ofSearch hleads (fun _ => Memory.recalls_of_mem_encoderNotes)
      (fun _ => Memory.recalls_of_mem_encoderNotes) (Memory.recalls_rememberEncoder model _)
      (Memory.recalls_rememberEncoder model _) (hleads.agrees.rememberEncoder hencoder)
      (hleads.bareAgrees.rememberEncoder hencoder) rfl

theorem repeats_event (hleads : held.LeadsOver bare world) (event : Event) :
    Repeats world held bare (ofEvents held world [event] (.ok ()))
      (ofEvents bare world [event] (.ok ())) := by
  cases event with
  | grammarSought grammar => exact repeats_grammarSought hleads grammar
  | encoderSought model => exact repeats_encoderSought hleads model
  | _ =>
    simp only [ofEvents, Memory.replay, Memory.trailOf, List.append_nil]
    exact repeats_notes hleads fun note hnote => Memory.recalls_note? (Option.mem_toList.mp hnote)

theorem repeats_ofEvents (hleads : held.LeadsOver bare world) (events : List Event)
    (result : Except Failure α) :
    Repeats world held bare (ofEvents held world events result)
      (ofEvents bare world events result) := by
  induction events generalizing held bare with
  | nil => exact repeats_ofResult hleads result
  | cons event rest ih =>
    rw [ofEvents_cons held world event, ofEvents_cons bare world event]
    exact (repeats_event hleads event).andThen fun _ held bare hleads => ih hleads

end Outcome

end ReviewContext

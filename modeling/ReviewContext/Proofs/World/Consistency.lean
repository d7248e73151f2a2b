import ReviewContext.Proofs.World.Repetition

/-!
# Operations in a world that stays as it is

Each operation on the world is work done again: a memory that agrees with the world does not decide
about its result. So changes that are prepared together have the results that each of them has
alone, and how far the workers are ahead of a failure does not decide about them either.
-/

namespace ReviewContext

open ReviewContext.Diff (FileDiff)

variable {world : World} {held bare : Memory}

namespace Memory.LeadsOver

theorem parser_eq (hleads : held.LeadsOver bare world) (readsSections : Bool) :
    held.parser world readsSections = bare.parser world readsSections := by
  rw [Memory.parser, Memory.parser, hleads.agrees.kit_eq, hleads.bareAgrees.kit_eq]

theorem encoderFor_eq (hleads : held.LeadsOver bare world) (model : String) :
    held.encoderFor world model = bare.encoderFor world model := by
  rw [hleads.agrees.encoderFor_eq, hleads.bareAgrees.encoderFor_eq]

theorem findsGrammar_eq (hleads : held.LeadsOver bare world) (grammar : Grammar) :
    held.findsGrammar world grammar = bare.findsGrammar world grammar := by
  rw [hleads.agrees.findsGrammar_eq, hleads.bareAgrees.findsGrammar_eq]

end Memory.LeadsOver

namespace World

open Outcome (Repeats)

theorem repeats_findGrammar (hleads : held.LeadsOver bare world) (grammar : Grammar) :
    Repeats world held bare (world.findGrammar held grammar) (world.findGrammar bare grammar) := by
  rw [findGrammar, findGrammar, hleads.findsGrammar_eq]
  exact Outcome.repeats_ofEvents hleads _ _

theorem repeats_parse (hleads : held.LeadsOver bare world) (readsSections : Bool)
    (code : LooseText) (extension : String) (budget : Int) :
    Repeats world held bare (world.parse held readsSections code extension budget)
      (world.parse bare readsSections code extension budget) := by
  rw [parse, parse, hleads.parser_eq]
  exact Outcome.repeats_ofEvents hleads _ _

theorem repeats_extract (hleads : held.LeadsOver bare world) (readsSections : Bool)
    (diff : FileDiff) (settings : Settings) :
    Repeats world held bare (world.extract held readsSections diff settings)
      (world.extract bare readsSections diff settings) := by
  rw [extract, extract, hleads.parser_eq]
  exact Outcome.repeats_ofEvents hleads _ _

theorem repeats_countTokens (hleads : held.LeadsOver bare world) (model text : String) :
    Repeats world held bare (world.countTokens held model text)
      (world.countTokens bare model text) := by
  rw [countTokens, countTokens, hleads.encoderFor_eq]
  exact Outcome.repeats_ofEvents hleads _ _

theorem repeats_fitAll (hleads : held.LeadsOver bare world) (budget : Budget) (model : String)
    (texts : List String) :
    Repeats world held bare (world.fitAll held budget model texts)
      (world.fitAll bare budget model texts) := by
  induction texts generalizing held bare with
  | nil => exact Outcome.repeats_ofResult hleads (.ok [])
  | cons text rest ih =>
    refine (repeats_countTokens hleads model text).andThen ?_
    intro tokens held bare hleads
    exact (ih hleads).map _

/-! ## Prompt files -/

/-- A remembered file is what reading it again would give. -/
theorem loadPrompt_eq (hagrees : held.Agrees world) (path : String) :
    world.loadPrompt held (some path) = world.readPrompt held path := by
  simp only [loadPrompt]
  cases hlookup : held.prompts.lookup path with
  | none => rfl
  | some text =>
    have hread : world.files.readText path = .ok text :=
      hagrees.prompts _ (mem_of_lookup_eq_some hlookup)
    rw [readPrompt, hread]

theorem repeats_readPrompt (hleads : held.LeadsOver bare world) (path : String) :
    Repeats world held bare (world.readPrompt held path) (world.readPrompt bare path) := by
  unfold readPrompt
  split
  · rename_i text hread
    have hresult := Outcome.repeats_ofResult hleads (Except.ok text)
    exact ⟨rfl, rfl, hresult.fresh, hresult.recalls, hresult.keeps,
      hleads.agrees.rememberPrompt hread, hleads.bareAgrees.rememberPrompt hread, rfl⟩
  · exact Outcome.repeats_ofEvents hleads _ _
  · exact Outcome.repeats_ofResult hleads _

theorem repeats_loadPrompt (hleads : held.LeadsOver bare world) (path : Option String) :
    Repeats world held bare (world.loadPrompt held path) (world.loadPrompt bare path) := by
  cases path with
  | none => exact Outcome.repeats_ofResult hleads _
  | some path =>
    rw [loadPrompt_eq hleads.agrees, loadPrompt_eq hleads.bareAgrees]
    exact repeats_readPrompt hleads path

/-! ## Preparations -/

section Preparations

variable (readsSections : Bool) (settings : Settings) (parts : PromptParts)

theorem repeats_prepare (hleads : held.LeadsOver bare world) (change : Change) :
    Repeats world held bare (world.prepare held readsSections settings parts change)
      (world.prepare bare readsSections settings parts change) := by
  rw [prepare, prepare, hleads.parser_eq, hleads.encoderFor_eq]
  exact Outcome.repeats_ofEvents hleads _ _

theorem repeats_prepareEach (hleads : held.LeadsOver bare world) (changes : List Change) :
    Repeats world held bare (world.prepareEach held readsSections settings parts changes)
      (world.prepareEach bare readsSections settings parts changes) := by
  induction changes generalizing held bare with
  | nil => exact Outcome.repeats_ofResult hleads (.ok ())
  | cons change rest ih =>
    have hfirst := repeats_prepare readsSections settings parts hleads change
    exact hfirst.behind (ih hfirst.leadsOver)

theorem prepareInOrder_cons_of_error {change : Change} {failure : Failure} (ahead : Nat)
    (rest : List Change)
    (hfails : (world.prepare held readsSections settings parts change).result = .error failure) :
    world.prepareInOrder held readsSections settings parts ahead (change :: rest) =
      let first := world.prepare held readsSections settings parts change
      let begun :=
        first.behind
          (world.prepareEach first.memory readsSections settings parts (rest.take ahead))
      ⟨.error failure, begun.memory, begun.notes⟩ := by
  simp only [prepareInOrder, hfails, Outcome.behind]

theorem prepareInOrder_cons_of_ok {change : Change} {context : FileContext} (ahead : Nat)
    (rest : List Change)
    (hcontext : (world.prepare held readsSections settings parts change).result = .ok context) :
    world.prepareInOrder held readsSections settings parts ahead (change :: rest) =
      let first := world.prepare held readsSections settings parts change
      first.behind
        ((world.prepareInOrder first.memory readsSections settings parts ahead rest).map
          (context :: ·)) := by
  simp only [prepareInOrder, hcontext, Outcome.behind]

theorem repeats_prepareInOrder (hleads : held.LeadsOver bare world) (ahead : Nat)
    (changes : List Change) :
    Repeats world held bare (world.prepareInOrder held readsSections settings parts ahead changes)
      (world.prepareInOrder bare readsSections settings parts ahead changes) := by
  induction changes generalizing held bare with
  | nil => exact Outcome.repeats_ofResult hleads (.ok [])
  | cons change rest ih =>
    have hfirst := repeats_prepare readsSections settings parts hleads change
    cases hresult : (world.prepare bare readsSections settings parts change).result with
    | error failure =>
      rw [prepareInOrder_cons_of_error readsSections settings parts ahead rest hresult,
        prepareInOrder_cons_of_error readsSections settings parts ahead rest
          (hfirst.result.trans hresult)]
      have hbegun :=
        repeats_prepareEach readsSections settings parts hfirst.leadsOver (rest.take ahead)
      exact (hfirst.behind hbegun).withResult (.error failure)
    | ok context =>
      rw [prepareInOrder_cons_of_ok readsSections settings parts ahead rest hresult,
        prepareInOrder_cons_of_ok readsSections settings parts ahead rest
          (hfirst.result.trans hresult)]
      exact hfirst.behind ((ih hfirst.leadsOver).map _)

theorem repeats_prepareAll (hleads : held.LeadsOver bare world) (workers ahead : Nat)
    (changes : List Change) :
    Repeats world held bare
      (world.prepareAll held readsSections settings parts workers ahead changes)
      (world.prepareAll bare readsSections settings parts workers ahead changes) :=
  repeats_prepareInOrder readsSections settings parts hleads _ changes

theorem result_prepareInOrder (hagrees : held.Agrees world) (ahead : Nat)
    (changes : List Change) :
    (world.prepareInOrder held readsSections settings parts ahead changes).result =
      changes.mapM fun change =>
        (world.prepare Memory.empty readsSections settings parts change).result := by
  induction changes generalizing held with
  | nil => rfl
  | cons change rest ih =>
    have hfirst := repeats_prepare readsSections settings parts hagrees.leadsOver_empty change
    rw [List.mapM_cons, ← hfirst.result]
    cases hresult : (world.prepare held readsSections settings parts change).result with
    | error failure =>
      rw [prepareInOrder_cons_of_error readsSections settings parts ahead rest hresult]
      rfl
    | ok context =>
      rw [prepareInOrder_cons_of_ok readsSections settings parts ahead rest hresult]
      simp only [Outcome.behind, Outcome.map, ih hfirst.agrees]
      rfl

/-- Changes that are prepared together have the results that they have alone, up to the first
failure, whatever is begun besides. -/
theorem result_prepareAll (hagrees : held.Agrees world) (workers ahead : Nat)
    (changes : List Change) :
    (world.prepareAll held readsSections settings parts workers ahead changes).result =
      changes.mapM fun change =>
        (world.prepare Memory.empty readsSections settings parts change).result :=
  result_prepareInOrder readsSections settings parts hagrees _ changes

end Preparations

end World

end ReviewContext

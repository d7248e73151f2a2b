import ReviewContext.Parsing.LooseText
import ReviewContext.World.Replay

/-!
# Operations on the world

The operations that consult the world. Each takes the memory of the earlier ones and gives its
result together with the memory for the later ones.
-/

namespace ReviewContext

open ReviewContext.Diff (FileDiff)

/-- A parser for the grammars that are taken to be there. -/
def Memory.parser (memory : Memory) (world : World) (readsSections : Bool) : Parser :=
  { kit := memory.kit world, readsSections }

namespace World

def findGrammar (world : World) (memory : Memory) (grammar : Grammar) : Outcome Bool :=
  Outcome.ofEvents memory world [.grammarSought grammar]
    (.ok (memory.findsGrammar world grammar))

def parse (world : World) (memory : Memory) (readsSections : Bool) (code : LooseText)
    (extension : String) (budget : Int) : Outcome ParseOutcome :=
  Outcome.ofTraced memory world
    ((memory.parser world readsSections).tryParseLoose code extension budget)

def extract (world : World) (memory : Memory) (readsSections : Bool) (diff : FileDiff)
    (settings : Settings) : Outcome Extraction :=
  Outcome.ofTraced memory world
    (tryExtractBlocks diff settings (memory.parser world readsSections))

def prepare (world : World) (memory : Memory) (readsSections : Bool) (settings : Settings)
    (parts : PromptParts) (change : Change) : Outcome FileContext :=
  Outcome.ofTraced memory world
    (ReviewContext.prepare change settings (memory.parser world readsSections)
      (memory.encoderFor world settings.model) parts)

/-- Prepares changes whether they fail or not, for what they leave behind. -/
def prepareEach (world : World) (memory : Memory) (readsSections : Bool) (settings : Settings)
    (parts : PromptParts) : List Change → Outcome Unit
  | [] => Outcome.ofResult memory (.ok ())
  | change :: rest =>
    let first := world.prepare memory readsSections settings parts change
    let others := prepareEach world first.memory readsSections settings parts rest
    { others with notes := first.notes ++ others.notes }

/-- Prepares changes in order, up to the first failure. Some of the changes behind it are begun by
the time it is noticed, so many as `ahead` says. -/
def prepareInOrder (world : World) (memory : Memory) (readsSections : Bool) (settings : Settings)
    (parts : PromptParts) (ahead : Nat) : List Change → Outcome (List FileContext)
  | [] => Outcome.ofResult memory (.ok [])
  | change :: rest =>
    let first := world.prepare memory readsSections settings parts change
    match first.result with
    | .error failure =>
      let begun := world.prepareEach first.memory readsSections settings parts (rest.take ahead)
      ⟨.error failure, begun.memory, first.notes ++ begun.notes⟩
    | .ok context =>
      let others :=
        (prepareInOrder world first.memory readsSections settings parts ahead rest).map
          (context :: ·)
      { others with notes := first.notes ++ others.notes }

/-- Prepares changes by some workers, which take them up in order. A single worker takes up nothing
behind a failure. Several of them may be ahead by any number of changes, and the failure does not
call these back. -/
def prepareAll (world : World) (memory : Memory) (readsSections : Bool) (settings : Settings)
    (parts : PromptParts) (workers ahead : Nat) (changes : List Change) :
    Outcome (List FileContext) :=
  world.prepareInOrder memory readsSections settings parts (if 1 < workers then ahead else 0)
    changes

/-- Counts the tokens of a text by the encoder of a model. -/
def countTokens (world : World) (memory : Memory) (model text : String) : Outcome Nat :=
  Outcome.ofEvents memory world [.encoderSought model]
    (((memory.encoderFor world model).bind fun encoder => encoder.count text).mapError
      Failure.tokenizer)

/-- Whether each of some texts fits a budget, counted up to the first failure. -/
def fitAll (world : World) (memory : Memory) (budget : Budget) (model : String) :
    List String → Outcome (List Bool)
  | [] => Outcome.ofResult memory (.ok [])
  | text :: rest =>
    (world.countTokens memory model text).andThen fun tokens memory =>
      (fitAll world memory budget model rest).map ((!budget.isExceeded tokens) :: ·)

/-- Reads a prompt file that is not remembered; a file that cannot be opened gives way to the
built-in prompt. -/
def readPrompt (world : World) (memory : Memory) (path : String) : Outcome String :=
  match world.files.readText path with
  | .ok text => ⟨.ok text, memory.rememberPrompt path text, []⟩
  | .error (.file fault name) =>
    Outcome.ofEvents memory world [.promptUnreadable path (Failure.file fault name).message]
      (.ok Prompt.builtIn)
  | .error failure => Outcome.ofResult memory (.error failure)

/-- The prompt at a path, or the built-in one without a path. -/
def loadPrompt (world : World) (memory : Memory) (path : Option String) : Outcome String :=
  match path with
  | none => Outcome.ofResult memory (.ok Prompt.builtIn)
  | some path =>
    match memory.prompts.lookup path with
    | some text => ⟨.ok text, memory.rememberPrompt path text, []⟩
    | none => world.readPrompt memory path

end World

end ReviewContext

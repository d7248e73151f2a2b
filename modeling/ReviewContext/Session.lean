import ReviewContext.Command.Run

/-!
# Sessions

A session performs operations one after another while the world may change between them. What the
operations remember of the world stays with the session, so a later operation can still see what is
gone, and a change of the world can pass unnoticed.
-/

namespace ReviewContext

open ReviewContext.Diff (FileDiff)

/-- The operations that consult the world. -/
inductive Operation where
  | findGrammar (grammar : Grammar)
  | parse (readsSections : Bool) (code : LooseText) (extension : String) (budget : Int)
  | countTokens (model text : String)
  | fitAll (budget : Budget) (model : String) (texts : List String)
  | loadPrompt (path : Option String)
  | forgetPrompts
  | extract (readsSections : Bool) (diff : FileDiff) (settings : Settings)
  | prepare (readsSections : Bool) (settings : Settings) (parts : PromptParts) (change : Change)
  | prepareAll (readsSections : Bool) (settings : Settings) (parts : PromptParts)
      (workers ahead : Nat) (changes : List Change)
  | command (arguments : List String) (surroundings : Command.Surroundings)

/-- What an operation gives when it does not fail. -/
inductive Answer where
  | found (isFound : Bool)
  | parsed (outcome : ParseOutcome)
  | tokens (count : Nat)
  | fits (flags : List Bool)
  | prompt (text : String)
  | extraction (extraction : Extraction)
  | context (context : FileContext)
  | contexts (contexts : List FileContext)
  | exit (exit : Command.Exit)
  | done

/-- Runs a command; what goes wrong in it shows in its exit. -/
def World.runCommand (world : World) (memory : Memory) (arguments : List String)
    (surroundings : Command.Surroundings) : Outcome Command.Exit :=
  let (exit, memory) := Command.run arguments world memory surroundings
  Outcome.ofResult memory (.ok exit)

def Operation.perform (world : World) (memory : Memory) : Operation → Outcome Answer
  | findGrammar grammar => (world.findGrammar memory grammar).map .found
  | parse readsSections code extension budget =>
    (world.parse memory readsSections code extension budget).map .parsed
  | countTokens model text => (world.countTokens memory model text).map .tokens
  | fitAll budget model texts => (world.fitAll memory budget model texts).map .fits
  | loadPrompt path => (world.loadPrompt memory path).map .prompt
  | forgetPrompts => Outcome.ofResult memory.forgetPrompts (.ok .done)
  | extract readsSections diff settings =>
    (world.extract memory readsSections diff settings).map .extraction
  | prepare readsSections settings parts change =>
    (world.prepare memory readsSections settings parts change).map .context
  | prepareAll readsSections settings parts workers ahead changes =>
    (world.prepareAll memory readsSections settings parts workers ahead changes).map .contexts
  | command arguments surroundings =>
    (world.runCommand memory arguments surroundings).map .exit

/-- New states for some parts of the world besides its files. -/
structure Provision where
  listings : Option (List Listing)
  missing : Option (List (Package × ForeignError))
  tokenizer : Option Tokenizer

inductive WorldChange where
  | provide (provision : Provision)
  | write (path : String) (entry : Entry)
  | remove (path : String)

namespace World

def provide (world : World) (provision : Provision) : World where
  listings := provision.listings.getD world.listings
  missing := provision.missing.getD world.missing
  tokenizer := provision.tokenizer.getD world.tokenizer
  files := world.files

def change (world : World) : WorldChange → World
  | .provide provision => world.provide provision
  | .write path entry => { world with files := world.files.write path entry }
  | .remove path => { world with files := world.files.remove path }

end World

inductive Step where
  | perform (operation : Operation)
  | change (change : WorldChange)

structure Session where
  world : World
  memory : Memory

namespace Session

/-- A session that remembers nothing yet. -/
def start (world : World) : Session :=
  ⟨world, Memory.empty⟩

/-- The result of a step and the session after it. -/
def step (session : Session) : Step → Except Failure Answer × Session
  | .perform operation =>
    let outcome := operation.perform session.world session.memory
    (outcome.result, ⟨session.world, outcome.memory⟩)
  | .change change => (.ok .done, ⟨session.world.change change, session.memory⟩)

/-- The results of some steps in order. -/
def run (session : Session) : List Step → List (Except Failure Answer)
  | [] => []
  | step :: rest => (session.step step).1 :: (session.step step).2.run rest

end Session

end ReviewContext

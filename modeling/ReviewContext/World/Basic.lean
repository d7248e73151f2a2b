import ReviewContext.Extraction.FileContext
import ReviewContext.World.Files

/-!
# The world and what is remembered of it

The world is what a run finds around it: the answers of the grammars, the packages that cannot be
imported, a tokenizer, and files. Three things are remembered from then on: for each grammar whether
it was found, for each model its encoder, and the last eight prompt files that were read. Failures
to find an encoder or to read a file are not remembered. A fourth thing is settled once: the
verbosity at which the journal is written is that of the first command that asks for any.
-/

namespace ReviewContext

/-- The packages that provide grammars: the binding that all need, and one for each language. -/
inductive Package where
  | binding
  | python
  | javascript
  | typescript
  | go
  deriving DecidableEq, Repr

def Package.name : Package → String
  | .binding => "tree_sitter"
  | .python => "tree_sitter_python"
  | .javascript => "tree_sitter_javascript"
  | .typescript => "tree_sitter_typescript"
  | .go => "tree_sitter_go"

def Package.ofName? : String → Option Package
  | "tree_sitter" => some .binding
  | "tree_sitter_python" => some .python
  | "tree_sitter_javascript" => some .javascript
  | "tree_sitter_typescript" => some .typescript
  | "tree_sitter_go" => some .go
  | _ => none

def Grammar.package : Grammar → Package
  | .python => .python
  | .javascript => .javascript
  | .typescript | .tsx => .typescript
  | .go => .go

/-- The answer of a grammar to one source, or to every source. -/
structure Listing where
  grammar : Grammar
  source : Option String
  answer : Attempt

structure World where
  listings : List Listing
  /-- The packages that cannot be imported, each with the error of the attempt. -/
  missing : List (Package × ForeignError)
  tokenizer : Tokenizer
  files : Files

namespace World

/-- A world with all packages and no trees, whose tokenizer is out of reach. -/
def initial : World :=
  ⟨[], [], .failing ⟨.other, "offline"⟩, Files.bare⟩

/-- The error of importing a package. -/
def importError? (world : World) (package : Package) : Option ForeignError :=
  world.missing.lookup package

def lacks (world : World) (package : Package) : Bool :=
  (world.importError? package).isSome

def hasGrammar (world : World) (grammar : Grammar) : Bool :=
  !world.lacks .binding && !world.lacks grammar.package

/-- The first listed answer of a grammar to a source. -/
def answer (world : World) (grammar : Grammar) (source : String) : Attempt :=
  match world.listings.find? fun listing =>
      listing.grammar == grammar && listing.source.all (· == source) with
  | some listing => listing.answer
  | none => .raised "no tree"

end World

structure Memory where
  grammars : List (Grammar × Bool)
  encoders : List (String × Encoder)
  /-- Paths and texts, the most recently used first. -/
  prompts : List (String × String)
  /-- The verbosity of the journal, zero until a command asks for more. -/
  verbosity : Nat

namespace Memory

def empty : Memory :=
  ⟨[], [], [], 0⟩

def promptCapacity : Nat := 8

def rememberGrammar (memory : Memory) (grammar : Grammar) (found : Bool) : Memory :=
  { memory with grammars := (grammar, found) :: memory.grammars }

def rememberEncoder (memory : Memory) (model : String) (encoder : Encoder) : Memory :=
  { memory with encoders := (model, encoder) :: memory.encoders }

/-- Puts a prompt file in front, and drops the least recently used one beyond the capacity. -/
def rememberPrompt (memory : Memory) (path text : String) : Memory :=
  { memory with
    prompts :=
      ((path, text) :: memory.prompts.filter fun (other, _) => other != path).take
        promptCapacity }

def forgetPrompts (memory : Memory) : Memory :=
  { memory with prompts := [] }

/-- Sets up the journal, unless an earlier command did. -/
def setUpJournal (memory : Memory) (verbosity : Nat) : Memory :=
  if memory.verbosity = 0 then { memory with verbosity } else memory

/-- Whether a grammar is taken to be there. -/
def findsGrammar (memory : Memory) (world : World) (grammar : Grammar) : Bool :=
  (memory.grammars.lookup grammar).getD (world.hasGrammar grammar)

def kit (memory : Memory) (world : World) : Kit where
  grammar? grammar :=
    if memory.findsGrammar world grammar then some (world.answer grammar) else none

/-- The encoder of a model, remembered or as the tokenizer gives it. -/
def encoderFor (memory : Memory) (world : World) (model : String) :
    Except ForeignError Encoder :=
  match memory.encoders.lookup model with
  | some encoder => .ok encoder
  | none => world.tokenizer.encoderFor model

end Memory

end ReviewContext

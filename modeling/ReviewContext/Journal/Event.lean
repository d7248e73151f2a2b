import ReviewContext.Grammar.Profile
import ReviewContext.Report.Basic
import ReviewContext.Block.Textual
import ReviewContext.Span.Collect

/-!
# Events

What the work on a diff notes down on its way, in order. Each event has a level, the component that
notes it and a message. Two kinds of event consult something that is remembered for later:
the search for a grammar and the search for an encoder. These are noted silently here; whether they
leave a line depends on what is remembered.
-/

namespace ReviewContext

open ReviewContext.Text

inductive Strategy where
  | structural
  | fallback
  | unsupported
  | empty
  deriving DecidableEq, Repr

def Strategy.name : Strategy → String
  | .structural => "structural"
  | .fallback => "fallback"
  | .unsupported => "unsupported"
  | .empty => "empty"

inductive Level where
  | debug
  | info
  | warning
  deriving DecidableEq, Repr

def Level.name : Level → String
  | .debug => "DEBUG"
  | .info => "INFO"
  | .warning => "WARNING"

def Level.rank : Level → Nat
  | .debug => 0
  | .info => 1
  | .warning => 2

/-- A line of the journal. -/
structure Note where
  level : Level
  component : String
  message : String
  deriving DecidableEq, Repr

inductive Event where
  | grammarSought (grammar : Grammar)
  | parsing (profile : Profile)
  | parseLate (profile : Profile) (budget : Int)
  | parseRaised (profile : Profile) (message : String)
  | parseUnusable (profile : Profile)
  | sectionSkipped (language : String)
  | walkTooDeep (limit : Int) (spans : Nat)
  | walkTooLong (limit : Int) (spans : Nat)
  | blockDropped (oversize : Oversize)
  | extensionUnsupported (path : String)
  | parseFailed (path : String) (code : Code) (reason : String)
  | nothingEnclosing (path : String)
  | encoderSought (model : String)
  | tokensEstimated (model reason : String)
  | budgetExhausted (path : String) (tokens : Int)
  | prepared (path : String) (blocks : Nat) (strategy : Strategy) (tokens available : Int)
  | promptUnreadable (path reason : String)
  deriving DecidableEq, Repr

namespace Component

def base : String := "diffscope.modules.core."

def grammars : String := base ++ "languages"

def parsing : String := base ++ "parser_adapter"

def selection : String := base ++ "block_select"

def fallback : String := base ++ "fallback"

def engine : String := base ++ "engines.extract"

def tokens : String := base ++ "token_utils"

def prompt : String := base ++ "prompt"

end Component

/-- Milliseconds as seconds with three places. -/
def secondsText (milliseconds : Int) : String :=
  let places := (naturalDigits (milliseconds.toNat % 1000))
  numeral (milliseconds.toNat / 1000 : Nat) ++ "." ++
    String.ofList (List.replicate (3 - places.length) '0' ++ places)

namespace Event

def note? : Event → Option Note
  | grammarSought _ => none
  | parsing profile =>
    some ⟨.debug, Component.parsing,
      "parsing with " ++ profile.name ++ " (capabilities: " ++
        ", ".intercalate (profile.capabilities.map Capability.name) ++ ")"⟩
  | parseLate profile budget =>
    some ⟨.debug, Component.parsing,
      "parse with " ++ profile.name ++ " timed out after " ++ secondsText budget ++ "s"⟩
  | parseRaised profile message =>
    some ⟨.debug, Component.parsing, "parse with " ++ profile.name ++ " raised: " ++ message⟩
  | parseUnusable profile =>
    some ⟨.debug, Component.parsing,
      "parse with " ++ profile.name ++ " produced an unusable tree, retrying"⟩
  | sectionSkipped language =>
    some ⟨.debug, Component.parsing, "skipping <script lang=" ++ language ++ ">: no grammar"⟩
  | walkTooDeep limit spans =>
    some ⟨.warning, Component.selection,
      "syntax tree deeper than " ++ numeral limit ++ " levels; keeping " ++ numeral spans ++
        " spans collected so far"⟩
  | walkTooLong limit spans =>
    some ⟨.warning, Component.selection,
      "syntax tree visit limit of " ++ numeral limit ++ " nodes reached; keeping " ++
        numeral spans ++ " spans"⟩
  | blockDropped (.chars count limit) =>
    some ⟨.debug, Component.fallback,
      "fallback block dropped: " ++ numeral count ++ " chars > " ++ numeral limit⟩
  | blockDropped (.lines first last limit) =>
    some ⟨.debug, Component.fallback,
      "fallback block dropped: lines " ++ numeral first ++ "-" ++ numeral last ++ " exceed " ++
        numeral limit⟩
  | extensionUnsupported path =>
    some ⟨.debug, Component.engine,
      path ++ ": extension not in supported list, no extraction"⟩
  | parseFailed path code reason =>
    some ⟨.debug, Component.engine,
      path ++ ": structural parse failed (" ++ code.text ++ ": " ++ reason ++
        "), using fallback"⟩
  | nothingEnclosing path =>
    some ⟨.debug, Component.engine,
      path ++ ": no enclosing block for changed lines, using fallback"⟩
  | encoderSought _ => none
  | tokensEstimated model reason =>
    some ⟨.debug, Component.engine,
      "tokenizer for " ++ model ++ " unavailable, estimating: " ++ reason⟩
  | budgetExhausted path tokens =>
    some ⟨.warning, Component.engine,
      path ++ ": prompt needs " ++ numeral tokens ++
        " tokens, budget exhausted; skipping model call"⟩
  | prepared path blocks strategy tokens available =>
    some ⟨.info, Component.engine,
      path ++ ": " ++ numeral blocks ++ " blocks via " ++ strategy.name ++ ", " ++
        numeral tokens ++ " prompt tokens, " ++ numeral available ++ " available"⟩
  | promptUnreadable path reason =>
    some ⟨.warning, Component.prompt,
      "failed to load system prompt " ++ path ++ ", using default: " ++ reason⟩

end Event

end ReviewContext

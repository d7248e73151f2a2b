import ReviewContext.Budget.Tokens
import ReviewContext.Diff.Numbered
import ReviewContext.Extraction.Blocks
import ReviewContext.Prompt.Basic

/-!
# The context of a changed file

All that a review of one file needs: the numbered view of its diff, the enclosing blocks, the prompt
made of both, its size in tokens, and whether it fits the budget. First the prompt is drafted and
measured, then the budget is consulted. When the tokens cannot be counted, their number is estimated
and a warning says so. A blank path does for a diff that adds nothing.
-/

namespace ReviewContext

open ReviewContext.Diff (FileDiff)

/-- A changed file as it is handed in. -/
structure Change where
  path : Given String
  diff : String
  oldPath : Option (Given String)
  deriving DecidableEq, Repr

structure FileContext where
  path : Given String
  oldPath : Option (Given String)
  numbered : String
  blocks : List Block
  strategy : Strategy
  prompt : String
  promptTokens : Int
  availableTokens : Int
  shouldReview : Bool
  warnings : List Report

/-- Instructions and context that go into a prompt besides the diff. -/
structure PromptParts where
  system : Option String
  context : Option String
  deriving DecidableEq, Repr

/-- How prompts are measured exactly: by the encoder of a model, or not for want of one. A blank
model has none. -/
inductive Meter where
  | ofModel (model : String) (encoder : Except ForeignError Encoder)
  | blank

/-- The size of a prompt, with a warning and events about how it was found. -/
structure Measure where
  tokens : Nat
  warnings : List Report
  events : List Event

namespace Settings

def budget (settings : Settings) : Budget :=
  ⟨settings.tokenCeiling, settings.reservedTokens⟩

end Settings

namespace Measure

/-- The estimated size, after a failure to count for a model. -/
def estimated (path model : Given String) (prompt : String) (failure : Failure) : Measure where
  tokens := estimateTokens prompt
  warnings :=
    [Report.warning Code.tokenizer.text
      ("Exact token count for " ++ model.shown ++ " unavailable; using estimate")
      [("file", path.toJson), ("model", model.toJson)]]
  events := [.tokensEstimated model.shown failure.message]

/-- Puts events in front. -/
def noting (events : List Event) (measure : Measure) : Measure :=
  { measure with events := events ++ measure.events }

/-- Measures a prompt exactly, or by an estimate where that fails or is all that is wanted. -/
def ofPrompt (path : Given String) (prompt : String) (exact : Bool) (meter : Meter) : Measure :=
  if !exact then ⟨estimateTokens prompt, [], []⟩
  else
    match meter with
    | .ofModel model encoder =>
      match encoder.bind fun encoder => encoder.count prompt with
      | .ok tokens => ⟨tokens, [], [.encoderSought model]⟩
      | .error error =>
        (estimated path (.filled model) prompt (.tokenizer error)).noting [.encoderSought model]
    | .blank => estimated path .blank prompt (.blank .model)

end Measure

/-- A change whose prompt is written and measured. -/
structure Draft where
  change : Change
  numbered : String
  extraction : Extraction
  prompt : String
  measure : Measure

namespace Draft

/-- Drafts the prompt of a change once its blocks and its numbered view are known. -/
def write (change : Change) (settings : Settings) (meter : Meter) (parts : PromptParts)
    (extraction : Extraction) (numbered : String) : Except Text.NumeralFault Draft := do
  let prompt ← Prompt.assemble numbered extraction.blocks parts.context parts.system
  return ⟨change, numbered, extraction, prompt,
    Measure.ofPrompt change.path prompt settings.exactTokens meter⟩

/-- A warning that the prompt exceeds the budget, if it does. -/
def budgetWarnings (draft : Draft) (budget : Budget) : List Report :=
  if budget.isExceeded draft.measure.tokens then
    [Report.overBudget draft.change.path draft.measure.tokens budget.ceiling budget.reserved]
  else []

def budgetEvents (draft : Draft) (budget : Budget) : List Event :=
  if budget.isExceeded draft.measure.tokens then
    [.budgetExhausted draft.change.path.shown draft.measure.tokens]
  else []

/-- The context of a drafted change under a budget. -/
def context (draft : Draft) (budget : Budget) : FileContext where
  path := draft.change.path
  oldPath := draft.change.oldPath
  numbered := draft.numbered
  blocks := draft.extraction.blocks
  strategy := draft.extraction.strategy
  prompt := draft.prompt
  promptTokens := draft.measure.tokens
  availableTokens := budget.available draft.measure.tokens
  shouldReview := !budget.isExceeded draft.measure.tokens
  warnings := draft.extraction.warnings ++ draft.measure.warnings ++ draft.budgetWarnings budget

/-- Consults the budget. -/
def conclude (draft : Draft) (budget : Budget) : Traced FileContext :=
  .success (draft.context budget)
    (draft.budgetEvents budget ++
      [.prepared draft.change.path.shown draft.extraction.blocks.length draft.extraction.strategy
        draft.measure.tokens (budget.available draft.measure.tokens)])

end Draft

namespace Change

/-- The diff of a change, its path as it is shown. -/
def fileDiff (change : Change) : Except Text.NumeralFault FileDiff :=
  FileDiff.read change.diff change.path.shown (change.oldPath.map Given.shown)

/-- The extraction for a change; added lines need a path that is not blank. -/
def extraction (change : Change) (diff : FileDiff) (settings : Settings) (parser : Parser) :
    Traced Extraction :=
  if change.path.isBlank && !diff.added.isEmpty then .failure (.blank .path)
  else tryExtractBlocks diff settings parser

/-- Drafts the prompt of a change. -/
def draft (change : Change) (settings : Settings) (parser : Parser) (meter : Meter)
    (parts : PromptParts) : Traced Draft :=
  match change.fileDiff with
  | .error fault => .failure (.number fault)
  | .ok diff =>
    (change.extraction diff settings parser).andThen fun extraction =>
      match diff.numbered.bind (Draft.write change settings meter parts extraction) with
      | .error fault => .failure (.number fault)
      | .ok draft => .success draft draft.measure.events

end Change

/-- Prepares the context of a change. The encoder is the one that the settings' model has now. -/
def prepare (change : Change) (settings : Settings) (parser : Parser)
    (encoder : Except ForeignError Encoder) (parts : PromptParts) : Traced FileContext :=
  (change.draft settings parser (.ofModel settings.model encoder) parts).andThen fun draft =>
    draft.conclude settings.budget

namespace Block

def toJson (block : Block) : Json :=
  .object
    [("code", .text block.code), ("start_line", .int block.first), ("end_line", .int block.last),
      ("kind", .text block.kind), ("name", Json.optionalText block.name),
      ("truncation", .text block.truncation.name)]

end Block

namespace FileContext

def toJson (context : FileContext) (includePrompt : Bool) : Json :=
  .object
    ([("file_path", context.path.toJson), ("old_path", Given.optionalJson context.oldPath),
      ("strategy", .text context.strategy.name), ("numbered_diff", .text context.numbered),
      ("blocks", .list (context.blocks.map Block.toJson)),
      ("prompt_tokens", .int context.promptTokens),
      ("available_tokens", .int context.availableTokens),
      ("should_review", .bool context.shouldReview),
      ("warnings", .list (context.warnings.map Report.toJson))] ++
      if includePrompt then [("prompt", .text context.prompt)] else [])

end FileContext

end ReviewContext

import ReviewContext.Block.Ceiling
import ReviewContext.Diff.Reader
import ReviewContext.Parsing.Parser
import ReviewContext.Settings.Basic
import ReviewContext.Source.Rebuilt
import ReviewContext.Span.Select

/-!
# Extracting code blocks

For a diff with added lines in a supported file, the rebuilt source is parsed, the spans around its
changed lines are collected and the smallest of them selected, and each is governed by the ceilings
and reported in lines of the file. Where any of this yields nothing, one textual block of the added
lines stands in. Warnings tell what went wrong on the way.
-/

namespace ReviewContext

open ReviewContext.Diff (FileDiff)
open ReviewContext.Source (Rebuilt)

structure Extraction where
  strategy : Strategy
  blocks : List Block
  warnings : List Report
  events : List Event

namespace Extraction

/-- Puts events in front. -/
def noting (events : List Event) (extraction : Extraction) : Extraction :=
  { extraction with events := events ++ extraction.events }

/-- An extraction without blocks. -/
def nothing (strategy : Strategy) : Extraction :=
  ⟨strategy, [], [], []⟩

/-- The extraction by a textual block. -/
def textual (diff : FileDiff) (settings : Settings) (warnings : List Report) : Extraction :=
  match textualBlock diff.records settings.maxBlockChars settings.maxBlockLines with
  | .ok block => ⟨.fallback, block.toList, warnings, []⟩
  | .error oversize => ⟨.fallback, [], warnings, [.blockDropped oversize]⟩

end Extraction

/-- A warning about a file. -/
def fileWarning (path : String) (code : Code) (message : String) : Report :=
  Report.warning code.text message [("file", .text path)]

def WalkStop.code : WalkStop → Code
  | .depth => .depth
  | .nodes => .nodes

namespace Settings

def walkLimits (settings : Settings) : WalkLimits :=
  ⟨settings.maxDepth, settings.maxNodes⟩

def ceilings (settings : Settings) (family : Family) : Ceilings :=
  ⟨settings.maxBlockChars, settings.maxBlockLines, settings.windowRadius, family⟩

end Settings

namespace ParsedUnit

def family (unit : ParsedUnit) : Family :=
  unit.profile.family

def target (unit : ParsedUnit) (changed : LineSet) : WalkTarget :=
  ⟨unit.family, Text.Utf8.encode unit.source, unit.lineOffset, changed⟩

def walk (unit : ParsedUnit) (settings : Settings) (changed : LineSet) (orderStart : Nat) :
    Walk :=
  collectSpans (unit.target changed) settings.walkLimits orderStart unit.root

end ParsedUnit

namespace Walk

/-- The walks over some units, each numbering its spans behind those of the earlier ones. -/
def overUnits (settings : Settings) (changed : LineSet) (orderStart : Nat) :
    List ParsedUnit → List Walk
  | [] => []
  | unit :: rest =>
    let walk := unit.walk settings changed orderStart
    walk :: overUnits settings changed (orderStart + walk.spans.length) rest

def warning? (path : String) (walk : Walk) : Option Report :=
  walk.stop.map fun stop =>
    Report.warning stop.code.text
      ("traversal stopped early after " ++ Text.numeral walk.visited ++ " nodes")
      [("file", .text path), ("spans", .int walk.spans.length)]

def event? (settings : Settings) (walk : Walk) : Option Event :=
  walk.stop.map fun
    | .depth => .walkTooDeep settings.maxDepth walk.spans.length
    | .nodes => .walkTooLong settings.maxNodes walk.spans.length

end Walk

namespace Block

/-- The block with its range in lines of the file. -/
def inFile (source : Rebuilt) (block : Block) : Block :=
  { block with first := source.fileLine block.first, last := source.fileLine block.last }

end Block

/-- The family of the first unit. -/
def leadingFamily (units : List ParsedUnit) : Family :=
  (units.head?.map ParsedUnit.family).getD .unknown

/-- The blocks of the selected spans, in lines of the file. -/
def structuralBlocks (settings : Settings) (source : Rebuilt) (family : Family)
    (spans : List Span) : List Block :=
  let lines := source.lines
  (Span.selectMinimal spans).map fun span =>
    (span.govern lines (settings.ceilings family)).inFile source

/-- The extraction from parsed units. -/
def extractFromUnits (diff : FileDiff) (settings : Settings) (source : Rebuilt)
    (units : List ParsedUnit) : Extraction :=
  let changed := source.sourceLinesFor diff.changedNumbers
  let walks := Walk.overUnits settings changed 0 units
  let spans := walks.flatMap Walk.spans
  let warnings := walks.filterMap (Walk.warning? diff.path)
  let events := walks.filterMap (Walk.event? settings)
  if spans.isEmpty then
    (Extraction.textual diff settings warnings).noting
      (events ++ [.nothingEnclosing diff.path])
  else
    ⟨.structural, structuralBlocks settings source (leadingFamily units) spans, warnings, events⟩

/-- The extraction from a rebuilt source. -/
def extractFromSource (diff : FileDiff) (settings : Settings) (parser : Parser)
    (source : Rebuilt) : Extraction :=
  let extension := Extension.ofPath diff.path
  let events := parser.parseEvents source.text extension settings.parseTimeout
  match parser.parse source.text extension settings.parseTimeout with
  | .failed code reason =>
    (Extraction.textual diff settings [fileWarning diff.path code reason]).noting
      (events ++ [.parseFailed diff.path code reason])
  | .parsed units => (extractFromUnits diff settings source units).noting events

/-- The blocks around the added lines of a diff. -/
def extractBlocks (diff : FileDiff) (settings : Settings) (parser : Parser) : Extraction :=
  let extension := Extension.ofPath diff.path
  if diff.added.isEmpty then Extraction.nothing .empty
  else if !settings.supports diff.path then
    (Extraction.nothing .unsupported).noting [.extensionUnsupported diff.path]
  else if !hasStructure extension then
    Extraction.textual diff settings
      [fileWarning diff.path .unsupported ("no grammar for ." ++ extension)]
  else
    match Source.rebuild? diff.records with
    | none => Extraction.textual diff settings []
    | some source => extractFromSource diff settings parser source

/-- The source that a diff is parsed as, if it comes to that. -/
def parsedSource? (diff : FileDiff) (settings : Settings) : Option Rebuilt :=
  if !diff.added.isEmpty && settings.supports diff.path &&
      hasStructure (Extension.ofPath diff.path) then
    Source.rebuild? diff.records
  else none

/-- Whether windows leave out so many lines of a selected span that their count cannot be
written. -/
def hasUnwritableGap (diff : FileDiff) (settings : Settings) (parser : Parser)
    (source : Rebuilt) : Bool :=
  match parser.parse source.text (Extension.ofPath diff.path) settings.parseTimeout with
  | .failed _ _ => false
  | .parsed units =>
    let changed := source.sourceLinesFor diff.changedNumbers
    let spans := (Walk.overUnits settings changed 0 units).flatMap Walk.spans
    let ceilings := settings.ceilings (leadingFamily units)
    let lines := source.lines
    (Span.selectMinimal spans).any fun span =>
      span.needsWindows lines ceilings && !span.hasWritableGaps lines ceilings.radius

/-- The extraction, unless the time budget for parsing cannot be counted or a marker in a block
holds a number that cannot be written. -/
def tryExtractBlocks (diff : FileDiff) (settings : Settings) (parser : Parser) :
    Traced Extraction :=
  let extraction := extractBlocks diff settings parser
  match parsedSource? diff settings with
  | none => .success extraction extraction.events
  | some source =>
    if !TimeBudget.isCountable settings.parseTimeout then .failure .uncountableTime
    else if hasUnwritableGap diff settings parser source then
      ⟨.error (.number .tooLongToWrite), extraction.events⟩
    else .success extraction extraction.events

/-- The changed lines that no block reaches. -/
def uncoveredLines (diff : FileDiff) (blocks : List Block) : LineSet :=
  diff.changedNumbers.filter fun line =>
    !blocks.any fun block => block.first ≤ line && line ≤ block.last

end ReviewContext

import ReviewContext.Journal.Traced
import ReviewContext.Parsing.TimeBudget
import ReviewContext.Script.Section
import ReviewContext.Text.Indent

/-!
# Parsing by profiles

A parser tries the profiles of a text in order and takes the first usable tree. An attempt may also
find no grammar, raise an error, give a tree that is of no use, or not answer in time; the last of
these ends everything. An answer that would have to be waited for too long counts as an error. In a
component file each script section is parsed by the profiles of its own language, with the grammars
that are at hand when its turn comes, and every section that can be parsed contributes a unit. A
failure has a code and a reason and is an outcome like any other; only a time budget that cannot be
counted gives no outcome at all.
-/

namespace ReviewContext

open ReviewContext.Text
open ReviewContext.Script (Section)

/-- What a grammar answers for a text. -/
inductive Attempt where
  | raised (message : String)
  | noTree
  | tree (root : Node)
  | silent

/-- The grammars at hand. -/
structure Kit where
  grammar? : Grammar → Option (String → Attempt)

/-- A parsed text and the number of lines in front of it in the enclosing text. -/
structure ParsedUnit where
  root : Node
  source : String
  profile : Profile
  lineOffset : Nat

inductive ParseOutcome where
  | parsed (units : List ParsedUnit)
  | failed (code : Code) (reason : String)

structure Parser where
  kit : Kit
  /-- Whether component files can be taken apart. -/
  readsSections : Bool
  /-- The grammars at hand for each section of a component file; they may change on the way. -/
  sectionKit : Nat → Kit := fun _ => kit

/-- A script section and the grammars at hand when its turn comes. -/
structure Turn where
  part : Section
  kit : Kit

/-- What became of one profile. -/
inductive Trial where
  | usable (unit : ParsedUnit)
  | refused (reason : String)
  | late

namespace Profile

/-- The text that the grammar of the profile is given. -/
def sourceFor (profile : Profile) (code : String) : String :=
  if profile.dedents then dedent code else code

/-- A reason under the name of the profile. -/
def reason (profile : Profile) (text : String) : String :=
  profile.name ++ ": " ++ text

/-- The error of a wait that is too long. -/
def waitTooLong : String :=
  "timestamp too large to convert to C _PyTime_t"

/-- The answer of the grammar of the profile, if it is at hand, within a time budget. -/
def attempt? (profile : Profile) (kit : Kit) (code : String) (budget : Int) : Option Attempt :=
  (kit.grammar? profile.grammar).map fun parse =>
    if TimeBudget.isWaitable budget then parse (profile.sourceFor code) else .raised waitTooLong

def trial (profile : Profile) (kit : Kit) (code : String) (budget : Int) (offset : Nat) : Trial :=
  match profile.attempt? kit code budget with
  | none => .refused (profile.reason "grammar unavailable")
  | some (.raised message) => .refused (profile.reason message)
  | some .noTree => .refused (profile.reason "unusable tree")
  | some (.tree root) =>
    if root.isUsable then .usable ⟨root, profile.sourceFor code, profile, offset⟩
    else .refused (profile.reason "unusable tree")
  | some .silent => .late

def trialEvents (profile : Profile) (kit : Kit) (code : String) (budget : Int) : List Event :=
  .grammarSought profile.grammar ::
    match profile.attempt? kit code budget with
    | none => []
    | some (.raised message) => [.parsing profile, .parseRaised profile message]
    | some .noTree => [.parsing profile, .parseUnusable profile]
    | some (.tree root) =>
      if root.isUsable then [.parsing profile] else [.parsing profile, .parseUnusable profile]
    | some .silent => [.parsing profile, .parseLate profile budget]

end Profile

namespace Parser

/-- The outcome of the remaining profiles after some were refused. -/
def escalate (kit : Kit) (code : String) (budget : Int) (offset : Nat) (reasons : List String) :
    List Profile → ParseOutcome
  | [] =>
    .failed .parse
      (if reasons.isEmpty then "no profile available" else "; ".intercalate reasons)
  | profile :: rest =>
    match profile.trial kit code budget offset with
    | .usable unit => .parsed [unit]
    | .refused reason => escalate kit code budget offset (reasons ++ [reason]) rest
    | .late => .failed .timeout (profile.reason "timed out")

def escalateEvents (kit : Kit) (code : String) (budget : Int) : List Profile → List Event
  | [] => []
  | profile :: rest =>
    profile.trialEvents kit code budget ++
      match profile.trial kit code budget 0 with
      | .refused _ => escalateEvents kit code budget rest
      | _ => []

/-- The outcome of some profiles within a time budget; no budget is spent before the first one. -/
def parseWith (kit : Kit) (code : String) (offset : Nat) (budget : Int)
    (profiles : List Profile) : ParseOutcome :=
  if budget ≤ 0 then .failed .timeout "parse budget exhausted"
  else escalate kit code budget offset [] profiles

def parseWithEvents (kit : Kit) (code : String) (budget : Int) (profiles : List Profile) :
    List Event :=
  if budget ≤ 0 then [] else escalateEvents kit code budget profiles

/-- The outcome of the remaining sections, after some gave units and the last failure. -/
def parseSections (budget : Int) (units : List ParsedUnit) (failure : Option (Code × String)) :
    List Turn → ParseOutcome
  | [] =>
    match units, failure with
    | _ :: _, _ => .parsed units
    | [], some (code, reason) => .failed code reason
    | [], none => .failed .parse "no parseable script section"
  | ⟨part, kit⟩ :: rest =>
    match Profile.ofScriptLanguage? part.language with
    | none => parseSections budget units failure rest
    | some profiles =>
      match parseWith kit part.content (part.startLine - 1) budget profiles with
      | .parsed found => parseSections budget (units ++ found) failure rest
      | .failed .timeout reason => .failed .timeout reason
      | .failed code reason => parseSections budget units (some (code, reason)) rest

def parseSectionsEvents (budget : Int) : List Turn → List Event
  | [] => []
  | ⟨part, kit⟩ :: rest =>
    match Profile.ofScriptLanguage? part.language with
    | none => .sectionSkipped part.language :: parseSectionsEvents budget rest
    | some profiles =>
      parseWithEvents kit part.content budget profiles ++
        match parseWith kit part.content 0 budget profiles with
        | .failed .timeout _ => []
        | _ => parseSectionsEvents budget rest

/-- The script sections of a component file, each with the grammars at hand in its turn. -/
def turns (parser : Parser) (code : String) : List Turn :=
  (Script.sections code).mapIdx fun index part => ⟨part, parser.sectionKit index⟩

/-- An extension in lower case without the dots in front. -/
def plainExtension (extension : String) : String :=
  String.ofList ((lowerChars extension.toList).dropWhile fun c => c == '.')

def parseComponent (parser : Parser) (code : String) (budget : Int) : ParseOutcome :=
  if !parser.readsSections then
    .failed .capability "single-file component parser not configured"
  else if (Script.sections code).isEmpty then .failed .parse "no script section found"
  else parseSections budget [] none (parser.turns code)

/-- Parses the text of a file with the given extension, within a countable time budget in
milliseconds. -/
def parse (parser : Parser) (code extension : String) (budget : Int) : ParseOutcome :=
  let extension := plainExtension extension
  if isBlank code then .failed .parse "empty source"
  else if isComponentExtension extension then parser.parseComponent code budget
  else if (Profile.ofExtension extension).isEmpty then
    .failed .unsupported ("no grammar for ." ++ extension)
  else parseWith parser.kit code 0 budget (Profile.ofExtension extension)

/-- What parsing notes down. -/
def parseEvents (parser : Parser) (code extension : String) (budget : Int) : List Event :=
  let extension := plainExtension extension
  if isBlank code then []
  else if isComponentExtension extension then
    if parser.readsSections then parseSectionsEvents budget (parser.turns code) else []
  else parseWithEvents parser.kit code budget (Profile.ofExtension extension)

/-- Parses within a budget that has to be countable, whatever the text is. -/
def tryParse (parser : Parser) (code extension : String) (budget : Int) : Traced ParseOutcome :=
  if TimeBudget.isCountable budget then
    .success (parser.parse code extension budget) (parser.parseEvents code extension budget)
  else .failure .uncountableTime

end Parser

end ReviewContext

import ReviewContext.Report.Failure
import ReviewContext.Settings.Extension

/-!
# Settings

The ceilings and choices of a run. A draft holds the values as they were given; checking it refuses
values outside their ranges and normalizes the list of extensions. Changing settings makes a draft
of them and checks it again.
-/

namespace ReviewContext

structure Settings where
  maxBlockChars : Int
  maxBlockLines : Int
  parseTimeout : Int
  maxDepth : Int
  maxNodes : Int
  windowRadius : Int
  model : String
  tokenCeiling : Int
  reservedTokens : Int
  extensions : List String
  exactTokens : Bool
  deriving DecidableEq, Repr

namespace Settings

def initial : Settings where
  maxBlockChars := 10000
  maxBlockLines := 150
  parseTimeout := 8000
  maxDepth := 60
  maxNodes := 200000
  windowRadius := 8
  model := "gpt-4"
  tokenCeiling := 8192
  reservedTokens := 2000
  extensions := ["ts", "tsx", "js", "jsx", "vue", "py"]
  exactTokens := true

/-- The settings that have to be positive, in the order of the checks. -/
def positives (draft : Settings) : List (String × Int) :=
  [("max_block_chars", draft.maxBlockChars), ("max_block_lines", draft.maxBlockLines),
    ("parse_timeout_ms", draft.parseTimeout), ("max_depth", draft.maxDepth),
    ("max_nodes", draft.maxNodes)]

/-- The settings that must not be negative, in the order of the checks. -/
def nonnegatives (draft : Settings) : List (String × Int) :=
  [("window_radius", draft.windowRadius), ("reserved_output_tokens", draft.reservedTokens)]

/-- The first value outside its range. -/
def fault? (draft : Settings) : Option SettingFault :=
  ((draft.positives.find? fun (_, value) => value ≤ 0).map fun (name, value) =>
      SettingFault.notPositive name value).or
    ((draft.nonnegatives.find? fun (_, value) => value < 0).map fun (name, value) =>
      SettingFault.negative name value)

/-- Accepts a draft whose values lie in their ranges. -/
def check (draft : Settings) : Except SettingFault Settings :=
  match draft.fault? with
  | some fault => .error fault
  | none => .ok { draft with extensions := Extension.normalizeAll draft.extensions }

def supports (settings : Settings) (path : String) : Bool :=
  Extension.isSupported path settings.extensions

/-- New values for some of the settings. -/
structure Changes where
  maxBlockChars : Option Int := none
  maxBlockLines : Option Int := none
  parseTimeout : Option Int := none
  maxDepth : Option Int := none
  maxNodes : Option Int := none
  windowRadius : Option Int := none
  model : Option String := none
  tokenCeiling : Option Int := none
  reservedTokens : Option Int := none
  extensions : Option (List String) := none
  exactTokens : Option Bool := none
  deriving DecidableEq, Repr

def Changes.isEmpty (changes : Changes) : Bool :=
  changes == {}

/-- The draft with the new values put in. -/
def apply (settings : Settings) (changes : Changes) : Settings where
  maxBlockChars := changes.maxBlockChars.getD settings.maxBlockChars
  maxBlockLines := changes.maxBlockLines.getD settings.maxBlockLines
  parseTimeout := changes.parseTimeout.getD settings.parseTimeout
  maxDepth := changes.maxDepth.getD settings.maxDepth
  maxNodes := changes.maxNodes.getD settings.maxNodes
  windowRadius := changes.windowRadius.getD settings.windowRadius
  model := changes.model.getD settings.model
  tokenCeiling := changes.tokenCeiling.getD settings.tokenCeiling
  reservedTokens := changes.reservedTokens.getD settings.reservedTokens
  extensions := changes.extensions.getD settings.extensions
  exactTokens := changes.exactTokens.getD settings.exactTokens

/-- The settings made from the initial ones by some values. -/
def make (changes : Changes) : Except SettingFault Settings :=
  (initial.apply changes).check

/-- Changed settings, checked again unless nothing changes. -/
def override (settings : Settings) (changes : Changes) : Except SettingFault Settings :=
  if changes.isEmpty then .ok settings else (settings.apply changes).check

end Settings

end ReviewContext

import Mathlib.Data.List.Basic
import ReviewContext.Settings.Environment

/-!
# Settings and the variables behind them

The environment is refused for the first variable that holds no integer where one is wanted, and
then for the first value outside its range. A variable whose value suits its setting can be unset
without a change to whether and why the environment is refused; only that setting changes.
-/

namespace ReviewContext

open ReviewContext.Text

/-! ## Refusals -/

/-- The value unless there is a fault. -/
def refusing {α : Type} (fault? : Option SettingFault) (value : α) : Except SettingFault α :=
  match fault? with
  | some fault => .error fault
  | none => .ok value

theorem refusing_bind {α β : Type} (fault? : Option SettingFault) (a : α)
    (next : α → Option SettingFault) (f : α → β) :
    (refusing fault? a >>= fun x => refusing (next x) (f x)) =
      refusing (fault?.or (next a)) (f a) := by
  cases fault? <;> rfl

theorem refusing_bind_pure {α β : Type} (fault? : Option SettingFault) (a : α) (f : α → β) :
    (refusing fault? a >>= fun x => pure (f x)) = refusing fault? (f a) := by
  cases fault? <;> rfl

theorem findSome?_cons_eq_or {α β : Type} (f : α → Option β) (x : α) (xs : List α) :
    (x :: xs).findSome? f = (f x).or (xs.findSome? f) := by
  rw [List.findSome?_cons]
  cases f x <;> rfl

theorem Settings.check_eq (draft : Settings) :
    draft.check =
      refusing draft.fault? { draft with extensions := Extension.normalizeAll draft.extensions } := by
  unfold check
  cases draft.fault? <;> rfl

theorem Settings.apply_empty (settings : Settings) : settings.apply {} = settings :=
  rfl

theorem Settings.override_congr {first second : Settings} {changes : Settings.Changes}
    (happly : first.apply changes = second.apply changes) :
    first.override changes = second.override changes := by
  unfold override
  rw [happly]
  by_cases hempty : changes.isEmpty = true
  · have hnone : changes = {} := by simpa [Changes.isEmpty] using hempty
    rw [hnone, apply_empty, apply_empty] at happly
    rw [happly]
  · rw [if_neg hempty, if_neg hempty]

namespace Environment

/-- The variables that hold integers, in the order in which they are read. -/
def integerSuffixes : List String :=
  ["AST_MAX_CHARS", "AST_MAX_LINES", "AST_TIMEOUT_MS", "AST_MAX_DEPTH", "AST_MAX_NODES",
    "WINDOW_RADIUS", "MAX_TOKENS", "RESERVED_OUTPUT_TOKENS"]

def number? (environment : Environment) (suffix : String) : Option Int :=
  (environment.value? suffix).bind readInteger?

/-- The fault of a variable that holds something, but no integer. -/
def refusal? (environment : Environment) (suffix : String) : Option SettingFault :=
  (environment.value? suffix).bind fun text =>
    if (readInteger? text).isSome then none else some (.notInteger (variableName suffix) text)

theorem integer?_eq (environment : Environment) (suffix : String) :
    environment.integer? suffix =
      refusing (environment.refusal? suffix) (environment.number? suffix) := by
  unfold integer? refusal? number?
  cases environment.value? suffix with
  | none => rfl
  | some text => cases hread : readInteger? text <;> simp [hread, refusing]

/-- What the variables stand for when none of them is refused. -/
def proposed (environment : Environment) : Settings.Changes where
  maxBlockChars := environment.number? "AST_MAX_CHARS"
  maxBlockLines := environment.number? "AST_MAX_LINES"
  parseTimeout := environment.number? "AST_TIMEOUT_MS"
  maxDepth := environment.number? "AST_MAX_DEPTH"
  maxNodes := environment.number? "AST_MAX_NODES"
  windowRadius := environment.number? "WINDOW_RADIUS"
  model := environment.value? "MODEL"
  tokenCeiling := environment.number? "MAX_TOKENS"
  reservedTokens := environment.number? "RESERVED_OUTPUT_TOKENS"
  extensions := (environment.value? "SUPPORTED_EXTENSIONS").map Extension.splitList
  exactTokens := (environment.value? "EXACT_TOKENS").map isSwitchedOn

theorem changes_eq (environment : Environment) :
    environment.changes =
      refusing (integerSuffixes.findSome? environment.refusal?) environment.proposed := by
  simp only [changes, integer?_eq, integerSuffixes, refusing_bind_pure, refusing_bind,
    findSome?_cons_eq_or, List.findSome?_nil, Option.or_none]
  rfl

/-- The settings before their ranges are checked. -/
def draft (environment : Environment) : Settings :=
  Settings.initial.apply environment.proposed

/-- The settings of an environment that is not refused. -/
def accepted (environment : Environment) : Settings :=
  { environment.draft with
    extensions := Extension.normalizeAll environment.draft.extensions }

theorem accepted_maxNodes (environment : Environment) :
    environment.accepted.maxNodes = (environment.number? "AST_MAX_NODES").getD 200000 :=
  rfl

theorem accepted_model (environment : Environment) :
    environment.accepted.model = (environment.value? "MODEL").getD "gpt-4" :=
  rfl

theorem accepted_tokenCeiling (environment : Environment) :
    environment.accepted.tokenCeiling = (environment.number? "MAX_TOKENS").getD 8192 :=
  rfl

theorem accepted_extensions (environment : Environment) :
    environment.accepted.extensions =
      Extension.normalizeAll
        (((environment.value? "SUPPORTED_EXTENSIONS").map Extension.splitList).getD
          Settings.initial.extensions) :=
  rfl

theorem accepted_exactTokens (environment : Environment) :
    environment.accepted.exactTokens =
      ((environment.value? "EXACT_TOKENS").map isSwitchedOn).getD true :=
  rfl

theorem settings_eq (environment : Environment) :
    environment.settings =
      refusing ((integerSuffixes.findSome? environment.refusal?).or environment.draft.fault?)
        environment.accepted := by
  simp only [settings, changes_eq, Settings.make, Settings.check_eq, refusing_bind]
  rfl

/-! ## Unset variables -/

/-- The environment without the variables of some suffixes. -/
def unset (environment : Environment) (suffixes : List String) : Environment :=
  fun name => if name ∈ suffixes.map variableName then none else environment name

theorem variableName_injective : Function.Injective variableName := by
  intro first second hname
  have hchars := congrArg String.toList hname
  simp only [variableName, String.toList_append, List.append_cancel_left_eq] at hchars
  exact String.toList_injective hchars

section Unset

variable {environment : Environment} {suffixes : List String} {suffix : String}

theorem value?_unset_of_mem (hsuffix : suffix ∈ suffixes) :
    (environment.unset suffixes).value? suffix = none := by
  have hname : variableName suffix ∈ suffixes.map variableName := List.mem_map_of_mem hsuffix
  simp [value?, unset, hname]

theorem value?_unset_of_notMem (hsuffix : suffix ∉ suffixes) :
    (environment.unset suffixes).value? suffix = environment.value? suffix := by
  have hname : variableName suffix ∉ suffixes.map variableName := by
    intro hmem
    obtain ⟨other, hother, hname⟩ := List.mem_map.mp hmem
    exact hsuffix (variableName_injective hname ▸ hother)
  rw [value?, value?, unset, if_neg hname]

theorem number?_unset_of_mem (hsuffix : suffix ∈ suffixes) :
    (environment.unset suffixes).number? suffix = none := by
  rw [number?, value?_unset_of_mem hsuffix, Option.bind_none]

theorem number?_unset_of_notMem (hsuffix : suffix ∉ suffixes) :
    (environment.unset suffixes).number? suffix = environment.number? suffix := by
  rw [number?, number?, value?_unset_of_notMem hsuffix]

end Unset

/-! ## Values that suit their settings -/

/-- An integer setting with a range. -/
structure RangedVariable where
  setting : String
  suffix : String
  initial : Int

/-- The settings that have to be positive. -/
def positiveVariables : List RangedVariable :=
  [⟨"max_block_chars", "AST_MAX_CHARS", 10000⟩, ⟨"max_block_lines", "AST_MAX_LINES", 150⟩,
    ⟨"parse_timeout_ms", "AST_TIMEOUT_MS", 8000⟩, ⟨"max_depth", "AST_MAX_DEPTH", 60⟩,
    ⟨"max_nodes", "AST_MAX_NODES", 200000⟩]

/-- The settings that must not be negative. -/
def nonnegativeVariables : List RangedVariable :=
  [⟨"window_radius", "WINDOW_RADIUS", 8⟩,
    ⟨"reserved_output_tokens", "RESERVED_OUTPUT_TOKENS", 2000⟩]

/-- The value of a setting under its name. -/
def named (environment : Environment) (ranged : RangedVariable) : String × Int :=
  (ranged.setting, (environment.number? ranged.suffix).getD ranged.initial)

theorem positives_draft (environment : Environment) :
    environment.draft.positives = positiveVariables.map environment.named :=
  rfl

theorem nonnegatives_draft (environment : Environment) :
    environment.draft.nonnegatives = nonnegativeVariables.map environment.named :=
  rfl

/-- The variable holds nothing, or something that its setting takes. -/
structure Suits (environment : Environment) (suffix : String) : Prop where
  readable : suffix ∈ integerSuffixes → environment.refusal? suffix = none
  positive : suffix ∈ positiveVariables.map RangedVariable.suffix →
    ∀ n ∈ environment.number? suffix, 0 < n
  nonnegative : suffix ∈ nonnegativeVariables.map RangedVariable.suffix →
    ∀ n ∈ environment.number? suffix, 0 ≤ n

theorem suits_of_value?_eq_none {environment : Environment} {suffix : String}
    (hnone : environment.value? suffix = none) :
    environment.Suits suffix := by
  have hnumber : environment.number? suffix = none := by
    rw [number?, hnone, Option.bind_none]
  constructor
  · intro hinteger
    rw [refusal?, hnone, Option.bind_none]
  · simp [hnumber]
  · simp [hnumber]

theorem suits_of_value?_eq_some {environment : Environment} {suffix text : String} {n : Int}
    (htext : environment.value? suffix = some text)
    (hread : readInteger? text = some n)
    (hpos : 0 < n) :
    environment.Suits suffix := by
  have hnumber : environment.number? suffix = some n := by
    rw [number?, htext, Option.bind_some, hread]
  constructor
  · intro hinteger
    simp [refusal?, htext, hread]
  · intro _ m hm
    rw [hnumber, Option.mem_some_iff] at hm
    omega
  · intro _ m hm
    rw [hnumber, Option.mem_some_iff] at hm
    omega

theorem find?_map_congr {α β : Type} {first second : α → β} {test : β → Bool} {xs : List α}
    (hsame : ∀ x ∈ xs, first x = second x ∨ test (first x) = false ∧ test (second x) = false) :
    (xs.map first).find? test = (xs.map second).find? test := by
  induction xs with
  | nil => rfl
  | cons x xs ih =>
    have hrest := ih fun other hother => hsame other (List.mem_cons_of_mem _ hother)
    rw [List.map_cons, List.map_cons, List.find?_cons, List.find?_cons, hrest]
    rcases hsame x List.mem_cons_self with heq | ⟨hfirst, hsecond⟩
    · rw [heq]
    · rw [hfirst, hsecond]

section Unset

variable {environment : Environment} {suffixes : List String}

theorem refusals_unset (hsuits : ∀ suffix ∈ suffixes, environment.Suits suffix) :
    integerSuffixes.findSome? (environment.unset suffixes).refusal? =
      integerSuffixes.findSome? environment.refusal? := by
  have hsame : ∀ suffix ∈ integerSuffixes,
      (environment.unset suffixes).refusal? suffix = environment.refusal? suffix := by
    intro suffix hinteger
    by_cases hmem : suffix ∈ suffixes
    · rw [(hsuits suffix hmem).readable hinteger, refusal?, value?_unset_of_mem hmem,
        Option.bind_none]
    · rw [refusal?, refusal?, value?_unset_of_notMem hmem]
  rw [← List.head?_filterMap, ← List.head?_filterMap, List.filterMap_congr hsame]

/-- Ranged table keep the first value outside the range when others are unset. -/
theorem find?_named_unset {table : List RangedVariable} {test : String × Int → Bool}
    (hinitial : ∀ ranged ∈ table, test (ranged.setting, ranged.initial) = false)
    (hsuits : ∀ ranged ∈ table, ranged.suffix ∈ suffixes →
      ∀ n ∈ environment.number? ranged.suffix, test (ranged.setting, n) = false) :
    (table.map (environment.unset suffixes).named).find? test =
      (table.map environment.named).find? test := by
  apply find?_map_congr
  intro ranged hranged
  by_cases hmem : ranged.suffix ∈ suffixes
  · right
    constructor
    · rw [named, number?_unset_of_mem hmem]
      exact hinitial ranged hranged
    · unfold named
      cases hnumber : environment.number? ranged.suffix with
      | none => exact hinitial ranged hranged
      | some n => exact hsuits ranged hranged hmem n hnumber
  · left
    rw [named, named, number?_unset_of_notMem hmem]

theorem fault?_draft_unset (hsuits : ∀ suffix ∈ suffixes, environment.Suits suffix) :
    (environment.unset suffixes).draft.fault? = environment.draft.fault? := by
  have hpositive : ∀ ranged ∈ positiveVariables, ranged.suffix ∈ suffixes →
      ∀ n ∈ environment.number? ranged.suffix, 0 < n :=
    fun ranged hranged hmem => (hsuits _ hmem).positive (List.mem_map_of_mem hranged)
  have hnonnegative : ∀ ranged ∈ nonnegativeVariables, ranged.suffix ∈ suffixes →
      ∀ n ∈ environment.number? ranged.suffix, 0 ≤ n :=
    fun ranged hranged hmem => (hsuits _ hmem).nonnegative (List.mem_map_of_mem hranged)
  simp only [Settings.fault?, positives_draft, nonnegatives_draft]
  rw [find?_named_unset, find?_named_unset]
  · decide
  · simpa using hnonnegative
  · decide
  · simpa using hpositive

/-- Unsetting variables that suit their settings leaves every refusal as it is. -/
theorem settings_unset (hsuits : ∀ suffix ∈ suffixes, environment.Suits suffix) :
    ∃ fault?, environment.settings = refusing fault? environment.accepted ∧
      (environment.unset suffixes).settings =
        refusing fault? (environment.unset suffixes).accepted := by
  refine ⟨_, environment.settings_eq, ?_⟩
  rw [settings_eq, refusals_unset hsuits, fault?_draft_unset hsuits]

end Unset

end Environment

end ReviewContext

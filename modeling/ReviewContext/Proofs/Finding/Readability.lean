import ReviewContext.Finding.Anchor
import ReviewContext.Proofs.Report.Steps

/-!
# Findings that can be read

A value has a text if it nests no deeper than there is room and all integers in it can be written;
if not, one of the two is what fails. A finding can be read if its line can and all values have
texts that are asked for them: the one that gives the severity, and those of five other fields.
-/

namespace ReviewContext

open ReviewContext.Text

namespace Value

mutual

/-- How deep other values nest in a value. -/
def nesting : Value → Nat
  | list (item :: items) => max item.nesting (nestingOfItems items) + 1
  | mapping ((key, value) :: members) =>
    max key.nesting (max value.nesting (nestingOfMembers members)) + 1
  | _ => 0

def nestingOfItems : List Value → Nat
  | [] => 0
  | item :: items => max item.nesting (nestingOfItems items)

def nestingOfMembers : List (Value × Value) → Nat
  | [] => 0
  | (key, value) :: members => max key.nesting (max value.nesting (nestingOfMembers members))

end

mutual

/-- The integers in a value, at any depth. -/
def integers : Value → List Int
  | int n => [n]
  | list items => integersOfItems items
  | mapping members => integersOfMembers members
  | _ => []

def integersOfItems : List Value → List Int
  | [] => []
  | item :: items => item.integers ++ integersOfItems items

def integersOfMembers : List (Value × Value) → List Int
  | [] => []
  | (key, value) :: members => key.integers ++ (value.integers ++ integersOfMembers members)

end

/-- A value that can be turned into text. -/
structure HasText (room : Nat) (value : Value) : Prop where
  nesting : value.nesting ≤ room
  integers : ∀ n ∈ value.integers, isWritable n = true

instance (room : Nat) (value : Value) : Decidable (value.HasText room) :=
  decidable_of_iff (value.nesting ≤ room ∧ ∀ n ∈ value.integers, isWritable n = true)
    ⟨fun ⟨hnesting, hintegers⟩ => ⟨hnesting, hintegers⟩, fun htext => ⟨htext.1, htext.2⟩⟩

/-- Why a value cannot be turned into text. -/
inductive LacksText (room : Nat) (value : Value) : Failure → Prop
  | number {n : Int}
      (hmem : n ∈ value.integers)
      (hlong : isWritable n = false) :
      LacksText room value (.number .tooLongToWrite)
  | nesting
      (hdeep : room < value.nesting) :
      LacksText room value .nestedTooDeep

/-! ## Showing values -/

/-- How showing comes out for what nests to some depth and holds some integers. -/
inductive Shows (room nesting : Nat) (integers : List Int) : Except Failure (List Char) → Prop
  | written (chars : List Char)
      (hroom : nesting ≤ room)
      (hwritable : ∀ n ∈ integers, isWritable n = true) :
      Shows room nesting integers (.ok chars)
  | tooLong {n : Int}
      (hmem : n ∈ integers)
      (hlong : isWritable n = false) :
      Shows room nesting integers (.error (.number .tooLongToWrite))
  | tooDeep
      (hdeep : room < nesting) :
      Shows room nesting integers (.error .nestedTooDeep)

section Shows

variable {room depth others : Nat} {numbers rest : List Int}
  {first : Except Failure (List Char)}

theorem Shows.flat (chars : List Char) : Shows room 0 [] (.ok chars) :=
  .written chars (Nat.zero_le _) (by simp)

theorem Shows.bind {next : List Char → Except Failure (List Char)}
    (hfirst : Shows room depth numbers first)
    (hnext : ∀ chars, Shows room others rest (next chars)) :
    Shows room (max depth others) (numbers ++ rest) (first >>= next) := by
  cases hfirst with
  | tooLong hmem hlong => exact .tooLong (List.mem_append_left _ hmem) hlong
  | tooDeep hdeep => exact .tooDeep (Nat.lt_of_lt_of_le hdeep (Nat.le_max_left _ _))
  | written chars hroom hwritable =>
    change Shows _ _ _ (next chars)
    cases hshown : next chars with
    | ok result =>
      cases hshown ▸ hnext chars with
      | written _ hothers hrest =>
        refine .written result (Nat.max_le.mpr ⟨hroom, hothers⟩) fun n hn => ?_
        exact (List.mem_append.mp hn).elim (hwritable n) (hrest n)
    | error failure =>
      cases hshown ▸ hnext chars with
      | tooLong hmem hlong => exact .tooLong (List.mem_append_right _ hmem) hlong
      | tooDeep hdeep => exact .tooDeep (Nat.lt_of_lt_of_le hdeep (Nat.le_max_right _ _))

theorem Shows.map (hfirst : Shows room depth numbers first) (change : List Char → List Char) :
    Shows room depth numbers (first >>= fun chars => pure (change chars)) := by
  have hsame : ∀ chars, Shows room 0 [] (pure (change chars) : Except Failure (List Char)) :=
    fun chars => .flat (change chars)
  simpa using hfirst.bind hsame

theorem Shows.nested (hfirst : Shows room depth numbers first) :
    Shows (room + 1) (depth + 1) numbers first := by
  cases hfirst with
  | written chars hroom hwritable => exact .written chars (by omega) hwritable
  | tooLong hmem hlong => exact .tooLong hmem hlong
  | tooDeep hdeep => exact .tooDeep (by omega)

end Shows

mutual

theorem shows_shownChars (room : Nat) (value : Value) :
    Shows room value.nesting value.integers (shownChars room value) := by
  cases value with
  | null => exact .flat _
  | bool flag => exact .flat _
  | float number => exact .flat _
  | text text => exact .flat _
  | int n =>
    rw [shownChars]
    by_cases hn : isWritable n = true
    · rw [if_pos hn]
      exact .written _ (Nat.zero_le _) (by simpa [integers] using hn)
    · rw [if_neg hn]
      exact .tooLong (n := n) (by simp [integers]) (by simpa using hn)
  | list items =>
    cases items with
    | nil => exact .flat _
    | cons item items =>
      cases room with
      | zero => exact .tooDeep (by simp [nesting])
      | succ room =>
        rw [shownChars, nesting, integers, integersOfItems]
        exact ((shows_shownChars room item).bind fun chars =>
          (shows_shownItems room items).map _).nested
  | mapping members =>
    cases members with
    | nil => exact .flat _
    | cons member members =>
      obtain ⟨key, value⟩ := member
      cases room with
      | zero => exact .tooDeep (by simp [nesting])
      | succ room =>
        rw [shownChars, nesting, integers, integersOfMembers]
        exact ((shows_shownChars room key).bind fun keyChars =>
          (shows_shownChars room value).bind fun chars =>
            (shows_shownMembers room members).map _).nested

theorem shows_shownItems (room : Nat) (items : List Value) :
    Shows room (nestingOfItems items) (integersOfItems items) (shownItems room items) := by
  cases items with
  | nil => exact .flat _
  | cons item items =>
    rw [shownItems, nestingOfItems, integersOfItems]
    exact (shows_shownChars room item).bind fun chars => (shows_shownItems room items).map _

theorem shows_shownMembers (room : Nat) (members : List (Value × Value)) :
    Shows room (nestingOfMembers members) (integersOfMembers members)
      (shownMembers room members) := by
  cases members with
  | nil => exact .flat _
  | cons member members =>
    obtain ⟨key, value⟩ := member
    rw [shownMembers, nestingOfMembers, integersOfMembers]
    exact (shows_shownChars room key).bind fun keyChars =>
      (shows_shownChars room value).bind fun chars => (shows_shownMembers room members).map _

end

/-! ## Texts of values -/

variable {room : Nat} {value : Value}

theorem LacksText.not_hasText {failure : Failure} (hlacks : value.LacksText room failure) :
    ¬ value.HasText room := by
  intro htext
  cases hlacks with
  | number hmem hlong => simp [htext.integers _ hmem] at hlong
  | nesting hdeep => exact absurd htext.nesting (Nat.not_le.mpr hdeep)

theorem exists_shownChars_or (room : Nat) (value : Value) :
    (∃ chars, shownChars room value = .ok chars ∧ value.HasText room) ∨
      ∃ failure, shownChars room value = .error failure ∧ value.LacksText room failure := by
  have hshows := shows_shownChars room value
  generalize shownChars room value = shown at hshows
  cases hshows with
  | written chars hroom hwritable => exact .inl ⟨chars, rfl, hroom, hwritable⟩
  | tooLong hmem hlong => exact .inr ⟨_, rfl, .number hmem hlong⟩
  | tooDeep hdeep => exact .inr ⟨_, rfl, .nesting hdeep⟩

theorem exists_toText_or (room : Nat) (value : Value) :
    (∃ text, value.toText room = .ok text ∧ value.HasText room) ∨
      ∃ failure, value.toText room = .error failure ∧ value.LacksText room failure := by
  cases value with
  | text text => exact .inl ⟨text, rfl, Nat.zero_le _, by simp [integers]⟩
  | _ =>
    rcases exists_shownChars_or room _ with ⟨chars, hshown, htext⟩ | ⟨failure, hshown, hlacks⟩
    · exact .inl ⟨String.ofList chars, by simp [toText, hshown, Except.map], htext⟩
    · exact .inr ⟨_, by simp [toText, hshown, Except.map], hlacks⟩

theorem exists_toText_iff : (∃ text, value.toText room = .ok text) ↔ value.HasText room := by
  rcases exists_toText_or room value with ⟨text, hwritten, htext⟩ | ⟨failure, hfails, hlacks⟩
  · exact ⟨fun _ => htext, fun _ => ⟨text, hwritten⟩⟩
  · simp [hfails, hlacks.not_hasText]

theorem lacksText_of_toText {failure : Failure} (hfails : value.toText room = .error failure) :
    value.LacksText room failure := by
  rcases exists_toText_or room value with ⟨text, hwritten, -⟩ | ⟨other, hother, hlacks⟩
  · simp [hfails] at hwritten
  · rw [hfails] at hother
    rwa [Except.error.inj hother]

end Value

/-! ## Findings -/

namespace Issue

/-- The values of a finding that are asked for as text. -/
def textValues (finding : Finding) : List Value :=
  (severityValue? finding).toList ++
    ["file", "title", "description"].filterMap (present? finding) ++
    ["code", "suggestion"].filterMap fun field => finding.lookup field

theorem mem_textValues {finding : Finding} {value : Value} :
    value ∈ textValues finding ↔
      value ∈ severityValue? finding ∨ value ∈ present? finding "file" ∨
        value ∈ present? finding "title" ∨ value ∈ present? finding "description" ∨
        value ∈ finding.lookup "code" ∨ value ∈ finding.lookup "suggestion" := by
  simp [textValues, or_assoc]

variable {room : Nat} {finding : Finding} {field : String} {failure : Failure}

theorem ofFinding_eq_ok_iff {issue : Issue} :
    ofFinding room finding = .ok issue ↔
      severityOf room finding = .ok issue.severity ∧ lineOf finding = .ok issue.line ∧
        textOf room finding "file" = .ok issue.file ∧
        textOf room finding "title" = .ok issue.title ∧
        textOf room finding "description" = .ok issue.description ∧
        optionalTextOf room finding "code" = .ok issue.code ∧
        optionalTextOf room finding "suggestion" = .ok issue.suggestion := by
  simp only [ofFinding, bind_eq_ok, pure_eq_ok]
  constructor
  · rintro ⟨severity, hseverity, line, hline, file, hfile, title, htitle, description,
      hdescription, code, hcode, suggestion, hsuggestion, rfl⟩
    exact ⟨hseverity, hline, hfile, htitle, hdescription, hcode, hsuggestion⟩
  · rintro ⟨hseverity, hline, hfile, htitle, hdescription, hcode, hsuggestion⟩
    exact ⟨_, hseverity, _, hline, _, hfile, _, htitle, _, hdescription, _, hcode, _, hsuggestion,
      rfl⟩

/-! ## Single fields -/

theorem exists_severityOf_iff :
    (∃ severity, severityOf room finding = .ok severity) ↔
      ∀ value ∈ severityValue? finding, value.HasText room := by
  unfold severityOf
  cases severityValue? finding with
  | none => simp
  | some value => simp [exists_map_eq_ok, Value.exists_toText_iff]

theorem exists_textOf_iff :
    (∃ text, textOf room finding field = .ok text) ↔
      ∀ value ∈ present? finding field, value.HasText room := by
  unfold textOf
  cases present? finding field with
  | none => simp
  | some value => simp [Value.exists_toText_iff]

theorem exists_optionalTextOf_iff :
    (∃ text?, optionalTextOf room finding field = .ok text?) ↔
      ∀ value ∈ finding.lookup field, value.HasText room := by
  unfold optionalTextOf
  cases finding.lookup field with
  | none => simp
  | some value =>
    cases value with
    | null => simp [← Value.exists_toText_iff, Value.toText, Value.shownChars, Except.map]
    | _ => simp [exists_map_eq_ok, Value.exists_toText_iff]

theorem failure_severityOf (hfails : severityOf room finding = .error failure) :
    ∃ value ∈ severityValue? finding, value.LacksText room failure := by
  unfold severityOf at hfails
  split at hfails
  · rename_i value hvalue
    exact ⟨value, hvalue, Value.lacksText_of_toText (map_eq_error.mp hfails)⟩
  · cases hfails

theorem failure_textOf (hfails : textOf room finding field = .error failure) :
    ∃ value ∈ present? finding field, value.LacksText room failure := by
  unfold textOf at hfails
  split at hfails
  · rename_i value hvalue
    exact ⟨value, hvalue, Value.lacksText_of_toText hfails⟩
  · cases hfails

theorem failure_optionalTextOf (hfails : optionalTextOf room finding field = .error failure) :
    ∃ value ∈ finding.lookup field, value.LacksText room failure := by
  unfold optionalTextOf at hfails
  split at hfails
  · cases hfails
  · cases hfails
  · rename_i value hvalue hlookup
    exact ⟨value, hlookup, Value.lacksText_of_toText (map_eq_error.mp hfails)⟩

/-! ## Whole findings -/

theorem exists_ofFinding_iff :
    (∃ issue, ofFinding room finding = .ok issue) ↔
      (∃ n, lineOf finding = .ok n) ∧ ∀ value ∈ textValues finding, value.HasText room := by
  have htexts :
      (∀ value ∈ textValues finding, value.HasText room) ↔
        (∃ severity, severityOf room finding = .ok severity) ∧
          ((∃ text, textOf room finding "file" = .ok text) ∧
            (∃ text, textOf room finding "title" = .ok text) ∧
            ∃ text, textOf room finding "description" = .ok text) ∧
          (∃ text?, optionalTextOf room finding "code" = .ok text?) ∧
          ∃ text?, optionalTextOf room finding "suggestion" = .ok text? := by
    simp only [exists_severityOf_iff, exists_textOf_iff, exists_optionalTextOf_iff]
    simp [textValues, or_imp, forall_and]
  rw [htexts]
  simp only [ofFinding_eq_ok_iff]
  constructor
  · rintro ⟨issue, hseverity, hline, hfile, htitle, hdescription, hcode, hsuggestion⟩
    exact ⟨⟨_, hline⟩, ⟨_, hseverity⟩, ⟨⟨_, hfile⟩, ⟨_, htitle⟩, ⟨_, hdescription⟩⟩, ⟨_, hcode⟩,
      ⟨_, hsuggestion⟩⟩
  · rintro ⟨⟨line, hline⟩, ⟨severity, hseverity⟩,
      ⟨⟨file, hfile⟩, ⟨title, htitle⟩, ⟨description, hdescription⟩⟩, ⟨code, hcode⟩,
      ⟨suggestion, hsuggestion⟩⟩
    exact ⟨⟨severity, file, line, title, description, code, suggestion⟩, hseverity, hline, hfile,
      htitle, hdescription, hcode, hsuggestion⟩

/-- A finding that cannot be read has a line that cannot, or a value without the text that is asked
for. -/
theorem failure_ofFinding (hfails : ofFinding room finding = .error failure) :
    lineOf finding = .error failure ∨
      ∃ value ∈ textValues finding, value.LacksText room failure := by
  simp only [ofFinding, bind_eq_error, pure_ne_error, and_false, exists_false, or_false] at hfails
  rcases hfails with hseverity | ⟨_, -, hline | ⟨_, -, hfile | ⟨_, -, htitle | ⟨_, -,
    hdescription | ⟨_, -, hcode | ⟨_, -, hsuggestion⟩⟩⟩⟩⟩⟩
  · obtain ⟨value, hvalue, hlacks⟩ := failure_severityOf hseverity
    exact .inr ⟨value, mem_textValues.mpr (by simp [hvalue]), hlacks⟩
  · exact .inl hline
  · obtain ⟨value, hvalue, hlacks⟩ := failure_textOf hfile
    exact .inr ⟨value, mem_textValues.mpr (by simp [hvalue]), hlacks⟩
  · obtain ⟨value, hvalue, hlacks⟩ := failure_textOf htitle
    exact .inr ⟨value, mem_textValues.mpr (by simp [hvalue]), hlacks⟩
  · obtain ⟨value, hvalue, hlacks⟩ := failure_textOf hdescription
    exact .inr ⟨value, mem_textValues.mpr (by simp [hvalue]), hlacks⟩
  · obtain ⟨value, hvalue, hlacks⟩ := failure_optionalTextOf hcode
    exact .inr ⟨value, mem_textValues.mpr (by simp [hvalue]), hlacks⟩
  · obtain ⟨value, hvalue, hlacks⟩ := failure_optionalTextOf hsuggestion
    exact .inr ⟨value, mem_textValues.mpr (by simp [hvalue]), hlacks⟩

end Issue

namespace RawIssue

/-- The values that are asked for as text; an issue in normal form has its texts already. -/
def texts : RawIssue → List Value
  | decoded finding => Issue.textValues finding
  | normal _ => []

end RawIssue

end ReviewContext

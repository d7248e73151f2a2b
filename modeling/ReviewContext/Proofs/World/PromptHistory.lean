import Mathlib.Data.List.Nodup
import ReviewContext.Proofs.World.Recollection
import ReviewContext.World.Operation

/-!
# The history of prompt files

A history tells of the loads of prompt files without any bound: which paths were loaded with success
since the memory of them was last cleared, which files were read and what they held, and what the
files are now. The eight distinct paths that were loaded last are recent. A memory follows a history
when it holds the recent paths in their order, each with the text of its last read. Every load keeps
it so, and answers as the history tells.
-/

namespace ReviewContext

/-! ## Distinct entries -/

section Distinct

variable {α : Type} [DecidableEq α]

/-- Induction along the erasure of later copies of each entry. -/
theorem inductionOnDistinct {motive : List α → Prop}
    (nil : motive [])
    (cons : ∀ entry rest, motive (rest.filter fun other => !other == entry) →
      motive (entry :: rest))
    (entries : List α) : motive entries := by
  induction hlength : entries.length using Nat.strongRecOn generalizing entries with
  | ind size ih =>
    cases entries with
    | nil => exact nil
    | cons entry rest =>
      refine cons entry rest (ih _ ?_ _ rfl)
      have hle := List.length_filter_le (fun other => !other == entry) rest
      rw [List.length_cons] at hlength
      omega

theorem nodup_eraseDups (entries : List α) : entries.eraseDups.Nodup := by
  induction entries using inductionOnDistinct with
  | nil => exact List.nodup_nil
  | cons entry rest ih =>
    rw [List.eraseDups_cons]
    exact List.nodup_cons.mpr ⟨by simp, ih⟩

theorem eraseDups_filter (keep : α → Bool) (entries : List α) :
    (entries.filter keep).eraseDups = entries.eraseDups.filter keep := by
  induction entries using inductionOnDistinct with
  | nil => rfl
  | cons entry rest ih =>
    rw [List.eraseDups_cons]
    by_cases hkeep : keep entry = true
    · rw [List.filter_cons_of_pos hkeep, List.filter_cons_of_pos hkeep, List.eraseDups_cons,
        ← ih, List.filter_filter, List.filter_filter]
      simp only [Bool.and_comm]
    · -- The entry is not kept, so its later copies are not either.
      have hcopies :
          rest.filter keep = (rest.filter fun other => !other == entry).filter keep := by
        rw [List.filter_filter]
        refine List.filter_congr fun other _ => ?_
        by_cases hother : other = entry
        · simp [hother, hkeep]
        · simp [hother]
      rw [List.filter_cons_of_neg hkeep, List.filter_cons_of_neg hkeep, hcopies, ih]

/-- Of distinct entries, removing one of them moves each later one ahead by one place. -/
theorem take_filter_take {entries : List α} (hdistinct : entries.Nodup) (entry : α) (count : Nat) :
    ((entries.take (count + 1)).filter (· != entry)).take count =
      (entries.filter (· != entry)).take count := by
  induction entries generalizing count with
  | nil => simp
  | cons head rest ih =>
    obtain ⟨hfresh, hrest⟩ := List.nodup_cons.mp hdistinct
    by_cases hhead : head = entry
    · subst hhead
      have hall {others : List α} (hsub : others ⊆ rest) :
          others.filter (· != head) = others := by
        refine List.filter_eq_self.mpr fun other hother => ?_
        simpa using ne_of_mem_of_not_mem (hsub hother) hfresh
      rw [List.take_succ_cons, List.filter_cons_of_neg (by simp),
        List.filter_cons_of_neg (by simp), hall (List.take_subset count rest),
        hall (List.Subset.refl rest), List.take_take, Nat.min_self]
    · cases count with
      | zero => simp
      | succ count =>
        rw [List.take_succ_cons, List.filter_cons_of_pos (by simpa using hhead),
          List.filter_cons_of_pos (by simpa using hhead), List.take_succ_cons,
          List.take_succ_cons, ih hrest]

/-- The most recent distinct entries, after one more. -/
theorem take_eraseDups_cons (entry : α) (entries : List α) (count : Nat) :
    (entry :: entries).eraseDups.take (count + 1) =
      entry :: ((entries.eraseDups.take (count + 1)).filter (· != entry)).take count := by
  rw [take_filter_take (nodup_eraseDups entries), List.eraseDups_cons, List.take_succ_cons,
    eraseDups_filter]
  rfl

end Distinct

/-! ## Histories -/

structure PromptHistory where
  files : Files
  /-- The paths that were loaded with success since the memory was last cleared, the latest
  first. -/
  loaded : List String
  /-- The paths of all files that were read with success, each with its text at that time, the
  latest first. -/
  reads : List (String × String)

namespace PromptHistory

def start (files : Files) : PromptHistory :=
  ⟨files, [], []⟩

/-- The eight distinct paths that were loaded last. -/
def recent (history : PromptHistory) : List String :=
  history.loaded.eraseDups.take 8

theorem recent_cons (history : PromptHistory) (path : String) (reads : List (String × String)) :
    recent ⟨history.files, path :: history.loaded, reads⟩ =
      path :: (history.recent.filter (· != path)).take 7 :=
  take_eraseDups_cons path history.loaded 7

/-- A load of a recent path succeeds without a look at the file. Any other path is read, and nothing
becomes of a read that fails. -/
def load (history : PromptHistory) (path : String) : PromptHistory :=
  if path ∈ history.recent then { history with loaded := path :: history.loaded }
  else
    match history.files.readText path with
    | .ok text =>
      { history with loaded := path :: history.loaded, reads := (path, text) :: history.reads }
    | .error _ => history

theorem load_of_recent {history : PromptHistory} {path : String}
    (hrecent : path ∈ history.recent) :
    history.load path = { history with loaded := path :: history.loaded } :=
  if_pos hrecent

theorem load_of_read {history : PromptHistory} {path text : String}
    (hrecent : path ∉ history.recent)
    (hread : history.files.readText path = .ok text) :
    history.load path =
      { history with loaded := path :: history.loaded, reads := (path, text) :: history.reads } := by
  rw [load, if_neg hrecent, hread]

theorem load_eq_self {history : PromptHistory} {path : String}
    (hrecent : path ∉ history.recent)
    (hread : ∀ text, history.files.readText path ≠ .ok text) :
    history.load path = history := by
  rw [load, if_neg hrecent]
  split
  · rename_i text hok
    exact absurd hok (hread text)
  · rfl

theorem files_load (history : PromptHistory) (path : String) :
    (history.load path).files = history.files := by
  unfold load
  split
  · rfl
  · split <;> rfl

def clear (history : PromptHistory) : PromptHistory :=
  { history with loaded := [] }

end PromptHistory

/-- What a load of a path answers that reads the file as it is now. -/
inductive ReadsNow (files : Files) (path : String) : Except Failure String → Prop where
  | content {text : String}
      (hread : files.readText path = .ok text) :
      ReadsNow files path (.ok text)
  | unopened {fault : FileFault}
      (hpath : Char.ofNat 0 ∉ path.toList)
      (hopen : files.readBytes path = .error fault) :
      ReadsNow files path (.ok Prompt.builtIn)
  | badPath
      (hpath : Char.ofNat 0 ∈ path.toList) :
      ReadsNow files path (.error .nulInPath)
  | badText {bytes : List UInt8} {fault : Text.Utf8.Fault}
      (hpath : Char.ofNat 0 ∉ path.toList)
      (hbytes : files.readBytes path = .ok bytes)
      (hdecode : Text.Utf8.decode bytes = .error fault) :
      ReadsNow files path (.error (.illFormedText fault.message))

/-! ## Memories that follow a history -/

/-- A memory that holds the recent paths of a history, each with the text of its last read. -/
structure Memory.Follows (memory : Memory) (history : PromptHistory) : Prop where
  paths : memory.prompts.map Prod.fst = history.recent
  texts : ∀ entry ∈ memory.prompts, history.reads.lookup entry.1 = some entry.2

namespace Memory.Follows

variable {memory : Memory} {history : PromptHistory}

theorem empty (files : Files) : Memory.empty.Follows (PromptHistory.start files) :=
  ⟨rfl, by simp [Memory.empty]⟩

theorem mem_recent_iff (hfollows : memory.Follows history) (path : String) :
    path ∈ history.recent ↔ ∃ text, memory.prompts.lookup path = some text := by
  rw [← Option.isSome_iff_exists, List.lookup_isSome_iff, ← hfollows.paths, List.mem_map]
  simp

theorem clear (memory : Memory) (history : PromptHistory) :
    memory.forgetPrompts.Follows history.clear :=
  ⟨rfl, by simp [forgetPrompts]⟩

/-- Remembering a path as the latest one follows a load of it with success. -/
theorem rememberPrompt {path text : String} {reads : List (String × String)}
    (hfollows : memory.Follows history)
    (hpath : reads.lookup path = some text)
    (hothers : ∀ other, other ≠ path → reads.lookup other = history.reads.lookup other) :
    (memory.rememberPrompt path text).Follows
      { history with loaded := path :: history.loaded, reads := reads } where
  paths := by
    have hfilter :
        (memory.prompts.filter fun entry => entry.1 != path).map Prod.fst =
          history.recent.filter (· != path) := by
      rw [← hfollows.paths, List.filter_map]
      rfl
    simp only [Memory.rememberPrompt, promptCapacity, PromptHistory.recent_cons,
      List.take_succ_cons, List.map_cons, List.map_take, hfilter]
  texts entry hentry := by
    rcases List.mem_cons.mp (List.mem_of_mem_take hentry) with rfl | hold
    · exact hpath
    · obtain ⟨hmem, hne⟩ := List.mem_filter.mp hold
      rw [hothers entry.1 (by simpa using hne)]
      exact hfollows.texts entry hmem

end Memory.Follows

/-! ## Loads -/

/-- An answer to a load of a path, as a history tells it. -/
structure PromptHistory.Answers (history : PromptHistory) (path : String)
    (answer : Except Failure String) : Prop where
  recalled : path ∈ history.recent →
    ∃ text, history.reads.lookup path = some text ∧ answer = .ok text
  current : path ∉ history.recent → ReadsNow history.files path answer

namespace World

variable {memory : Memory} {history : PromptHistory} {path : String}

theorem loadPrompt_of_recent (world : World) (hfollows : memory.Follows history)
    (hrecent : path ∈ history.recent) :
    ∃ text, history.reads.lookup path = some text ∧
      world.loadPrompt memory (some path) = ⟨.ok text, memory.rememberPrompt path text, []⟩ := by
  obtain ⟨text, hlookup⟩ := (hfollows.mem_recent_iff path).mp hrecent
  refine ⟨text, hfollows.texts _ (mem_of_lookup_eq_some hlookup), ?_⟩
  simp only [loadPrompt, hlookup]

theorem loadPrompt_of_not_recent (world : World) (hfollows : memory.Follows history)
    (hrecent : path ∉ history.recent) :
    world.loadPrompt memory (some path) = world.readPrompt memory path := by
  have hlookup : memory.prompts.lookup path = none := by
    rw [hfollows.mem_recent_iff, not_exists] at hrecent
    exact Option.eq_none_iff_forall_ne_some.mpr hrecent
  simp only [loadPrompt, hlookup]

theorem readsNow_readPrompt (world : World) (memory : Memory) (path : String) :
    ReadsNow world.files path (world.readPrompt memory path).result := by
  by_cases hpath : Char.ofNat 0 ∈ path.toList
  · have hread : world.files.readText path = .error .nulInPath := by
      rw [Files.readText, if_pos (List.contains_iff_mem.mpr hpath)]
    rw [readPrompt, hread]
    exact .badPath hpath
  · have hplain : path.toList.contains (Char.ofNat 0) = false := by simpa using hpath
    cases hbytes : world.files.readBytes path with
    | error fault =>
      have hread : world.files.readText path = .error (.file fault (PathText.normal path)) := by
        simp only [Files.readText, hplain, Bool.false_eq_true, if_false, hbytes]
      rw [readPrompt, hread]
      exact .unopened hpath hbytes
    | ok bytes =>
      have hread : world.files.readText path = readText Text.Codec.utf8.decode bytes := by
        simp only [Files.readText, hplain, Bool.false_eq_true, if_false, hbytes]
      cases hdecode : Text.Utf8.decode bytes with
      | error fault =>
        have hrefused : world.files.readText path = .error (.illFormedText fault.message) := by
          simp only [hread, readText, Text.Codec.utf8, hdecode, Except.mapError]
        rw [readPrompt, hrefused]
        exact .badText hpath hbytes hdecode
      | ok chars =>
        have hcontent :
            world.files.readText path = .ok (String.ofList (Text.unifyRowEnds chars)) := by
          simp only [hread, readText, Text.Codec.utf8, hdecode, Except.mapError]
        rw [readPrompt, hcontent]
        exact .content hcontent

theorem memory_readPrompt (world : World) (memory : Memory) (path : String) :
    (world.readPrompt memory path).memory =
      match world.files.readText path with
      | .ok text => memory.rememberPrompt path text
      | .error _ => memory := by
  unfold readPrompt
  cases world.files.readText path with
  | ok text => rfl
  | error failure => cases failure <;> rfl

theorem answers_loadPrompt {world : World} (hfollows : memory.Follows history)
    (hfiles : world.files = history.files) (path : String) :
    history.Answers path (world.loadPrompt memory (some path)).result where
  recalled hrecent := by
    obtain ⟨text, hlast, hload⟩ := loadPrompt_of_recent world hfollows hrecent
    exact ⟨text, hlast, by rw [hload]⟩
  current hrecent := by
    rw [loadPrompt_of_not_recent world hfollows hrecent, ← hfiles]
    exact readsNow_readPrompt world memory path

theorem follows_loadPrompt {world : World} (hfollows : memory.Follows history)
    (hfiles : world.files = history.files) (path : String) :
    (world.loadPrompt memory (some path)).memory.Follows (history.load path) := by
  by_cases hrecent : path ∈ history.recent
  · obtain ⟨text, hlast, hload⟩ := loadPrompt_of_recent world hfollows hrecent
    rw [PromptHistory.load_of_recent hrecent, hload]
    exact hfollows.rememberPrompt hlast fun _ _ => rfl
  · rw [loadPrompt_of_not_recent world hfollows hrecent, memory_readPrompt, hfiles]
    cases hread : history.files.readText path with
    | error failure =>
      rw [PromptHistory.load_eq_self hrecent (by simp [hread])]
      exact hfollows
    | ok text =>
      rw [PromptHistory.load_of_read hrecent hread]
      refine hfollows.rememberPrompt List.lookup_cons_self fun other hother => ?_
      rw [List.lookup_cons, beq_false_of_ne hother]

end World

end ReviewContext

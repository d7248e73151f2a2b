import ReviewContext.Proofs.World.PromptHistory
import ReviewContext.Session

/-!
# How stale a prompt can be

A session loads prompt files, clears the memory of them and sees files written and removed, in any
order. A load of a path answers the text of its last read while the path is among the eight that
were loaded last since the memory was cleared. Any other load reads the file as it is. A read that
fails leaves nothing behind, so the next load of the path sees what has become of the file.
-/

namespace ReviewContext

inductive PromptStep where
  | load (path : Option String)
  | clear
  | write (path : String) (entry : Entry)
  | remove (path : String)

def PromptStep.toStep : PromptStep → Step
  | load path => .perform (.loadPrompt path)
  | clear => .perform .forgetPrompts
  | write path entry => .change (.write path entry)
  | remove path => .change (.remove path)

namespace PromptHistory

def after (history : PromptHistory) : PromptStep → PromptHistory
  | .load none => history
  | .load (some path) => history.load path
  | .clear => history.clear
  | .write path entry => { history with files := history.files.write path entry }
  | .remove path => { history with files := history.files.remove path }

/-- The history behind some steps that begin with some files. -/
def behind (files : Files) (steps : List PromptStep) : PromptHistory :=
  steps.foldl after (start files)

end PromptHistory

namespace Session

/-! ## Runs -/

def behind (session : Session) (steps : List Step) : Session :=
  steps.foldl (fun session step => (session.step step).2) session

theorem getElem?_run (session : Session) (steps : List Step) (index : Nat) :
    (session.run steps)[index]? =
      steps[index]?.map fun step => ((session.behind (steps.take index)).step step).1 := by
  induction steps generalizing session index with
  | nil => rfl
  | cons step rest ih =>
    cases index with
    | zero => rfl
    | succ index =>
      rw [run, List.getElem?_cons_succ, ih, List.getElem?_cons_succ, List.take_succ_cons]
      rfl

/-- A session whose files and memory of prompts are those of a history. -/
structure Follows (session : Session) (history : PromptHistory) : Prop where
  files : session.world.files = history.files
  memory : session.memory.Follows history

theorem follows_start (world : World) : (start world).Follows (.start world.files) :=
  ⟨rfl, .empty world.files⟩

theorem follows_step {session : Session} {history : PromptHistory}
    (hfollows : session.Follows history) (step : PromptStep) :
    (session.step step.toStep).2.Follows (history.after step) := by
  obtain ⟨hfiles, hmemory⟩ := hfollows
  cases step with
  | load path =>
    cases path with
    | none => exact ⟨hfiles, hmemory⟩
    | some path =>
      exact ⟨hfiles.trans (PromptHistory.files_load history path).symm,
        World.follows_loadPrompt hmemory hfiles path⟩
  | clear => exact ⟨hfiles, .clear session.memory history⟩
  | write path entry =>
    exact ⟨congrArg (Files.write · path entry) hfiles, hmemory.paths, hmemory.texts⟩
  | remove path =>
    exact ⟨congrArg (Files.remove · path) hfiles, hmemory.paths, hmemory.texts⟩

theorem follows_behind {session : Session} {history : PromptHistory}
    (hfollows : session.Follows history) (steps : List PromptStep) :
    (session.behind (steps.map PromptStep.toStep)).Follows (steps.foldl .after history) := by
  induction steps generalizing session history with
  | nil => exact hfollows
  | cons step rest ih => exact ih (follows_step hfollows step)

end Session

/-! ## Reads within a run -/

namespace PromptHistory

variable {files : Files} {steps : List PromptStep} {index earlier : Nat} {path : String}

theorem behind_take_succ {step : PromptStep} (hstep : steps[index]? = some step) :
    behind files (steps.take (index + 1)) = (behind files (steps.take index)).after step := by
  rw [behind, List.take_add_one, hstep, Option.toList_some, List.foldl_append]
  rfl

theorem behind_take_succ_of_end (hstep : steps[index]? = none) :
    behind files (steps.take (index + 1)) = behind files (steps.take index) := by
  rw [List.take_add_one, hstep, Option.toList_none, List.append_nil]

/-- A load in a run that reads the file of its path with success. -/
structure ReadsAt (files : Files) (steps : List PromptStep) (index : Nat) (path text : String) :
    Prop where
  load : steps[index]? = some (.load (some path))
  notRecent : path ∉ (behind files (steps.take index)).recent
  content : (behind files (steps.take index)).files.readText path = .ok text

/-- A load in a run that cannot read the file of its path. -/
structure FailsAt (files : Files) (steps : List PromptStep) (index : Nat) (path : String) :
    Prop where
  load : steps[index]? = some (.load (some path))
  notRecent : path ∉ (behind files (steps.take index)).recent
  failure : ∀ text, (behind files (steps.take index)).files.readText path ≠ .ok text

/-- The last load in front of a place in a run that has read a path with success. -/
structure IsLastRead (files : Files) (steps : List PromptStep) (index earlier : Nat)
    (path text : String) : Prop where
  lt : earlier < index
  reads : ReadsAt files steps earlier path text
  last : ∀ between other, earlier < between → between < index →
    ¬ ReadsAt files steps between path other

/-- A step that does not read a path with success leaves the last read of the path as it was. -/
theorem lookup_reads_after {history : PromptHistory} {step : PromptStep}
    (hstep : ∀ text, step = .load (some path) → path ∉ history.recent →
      history.files.readText path ≠ .ok text) :
    (history.after step).reads.lookup path = history.reads.lookup path := by
  cases step with
  | load other? =>
    cases other? with
    | none => rfl
    | some other =>
      by_cases hrecent : other ∈ history.recent
      · rw [after, load_of_recent hrecent]
      · cases hread : history.files.readText other with
        | error failure =>
          rw [after, load_eq_self hrecent (by simp [hread])]
        | ok text =>
          have hother : path ≠ other := by
            rintro rfl
            exact hstep text rfl hrecent hread
          rw [after, load_of_read hrecent hread, List.lookup_cons, beq_false_of_ne hother]
  | clear => rfl
  | write written entry => rfl
  | remove removed => rfl

theorem exists_isLastRead {text : String}
    (hlookup : (behind files (steps.take index)).reads.lookup path = some text) :
    ∃ earlier, IsLastRead files steps index earlier path text := by
  induction index with
  | zero => cases hlookup
  | succ index ih =>
    by_cases hreads : ∃ other, ReadsAt files steps index path other
    · obtain ⟨other, hother⟩ := hreads
      rw [behind_take_succ hother.load, after, load_of_read hother.notRecent hother.content,
        List.lookup_cons_self] at hlookup
      cases hlookup
      exact ⟨index, by omega, hother, fun between _ hafter hbefore => by omega⟩
    · have hearlier : (behind files (steps.take index)).reads.lookup path = some text := by
        cases hstep : steps[index]? with
        | none => rwa [behind_take_succ_of_end hstep] at hlookup
        | some step =>
          rw [behind_take_succ hstep, lookup_reads_after] at hlookup
          · exact hlookup
          · rintro other rfl hrecent hread
            exact hreads ⟨other, hstep, hrecent, hread⟩
      obtain ⟨earlier, hlt, hread, hlast⟩ := ih hearlier
      refine ⟨earlier, by omega, hread, fun between other hafter hbefore => ?_⟩
      by_cases hbetween : between = index
      · subst hbetween
        exact fun hother => hreads ⟨other, hother⟩
      · exact hlast between other hafter (by omega)

/-! ## Failed reads -/

theorem not_mem_recent_after {history : PromptHistory} {step : PromptStep}
    (hrecent : path ∉ history.recent)
    (hstep : step ≠ .load (some path)) :
    path ∉ (history.after step).recent := by
  cases step with
  | load other? =>
    cases other? with
    | none => exact hrecent
    | some other =>
      have hother : path ≠ other := fun h => hstep (by rw [h])
      have hcons (reads : List (String × String)) :
          path ∉ recent ⟨history.files, other :: history.loaded, reads⟩ := by
        rw [recent_cons]
        intro hmem
        rcases List.mem_cons.mp hmem with hhead | htail
        · exact hother hhead
        · exact hrecent (List.mem_filter.mp (List.mem_of_mem_take htail)).1
      by_cases hotherRecent : other ∈ history.recent
      · rw [after, load_of_recent hotherRecent]
        exact hcons history.reads
      · cases hread : history.files.readText other with
        | error failure =>
          rw [after, load_eq_self hotherRecent (by simp [hread])]
          exact hrecent
        | ok text =>
          rw [after, load_of_read hotherRecent hread]
          exact hcons _
  | clear => simp [after, clear, recent]
  | write written entry => exact hrecent
  | remove removed => exact hrecent

/-- A path whose read has failed is not recent until it is loaded again. -/
theorem not_mem_recent_of_failsAt
    (hfails : FailsAt files steps earlier path)
    (hlt : earlier < index)
    (hnext : ∀ between, earlier < between → between < index →
      steps[between]? ≠ some (.load (some path))) :
    path ∉ (behind files (steps.take index)).recent := by
  induction index with
  | zero => omega
  | succ index ih =>
    by_cases hearlier : earlier = index
    · subst hearlier
      rw [behind_take_succ hfails.load, after, load_eq_self hfails.notRecent hfails.failure]
      exact hfails.notRecent
    · have hrecent : path ∉ (behind files (steps.take index)).recent :=
        ih (by omega) fun between hafter hbefore => hnext between hafter (by omega)
      cases hstep : steps[index]? with
      | none => rwa [behind_take_succ_of_end hstep]
      | some step =>
        rw [behind_take_succ hstep]
        refine not_mem_recent_after hrecent fun hload => ?_
        exact hnext index (by omega) (by omega) (hstep.trans (congrArg some hload))

end PromptHistory

/-! ## Answers -/

namespace Session

open PromptHistory (FailsAt IsLastRead)

/-- What a load of a path at a place in a run answers. -/
structure AnswersLoad (files : Files) (steps : List PromptStep) (index : Nat) (path : String)
    (answer : Except Failure String) : Prop where
  /-- A recent path answers the text that it had when it was last read. -/
  recalled : path ∈ (PromptHistory.behind files (steps.take index)).recent →
    ∃ earlier text, IsLastRead files steps index earlier path text ∧ answer = .ok text
  /-- Any other path is read as it is. -/
  current : path ∉ (PromptHistory.behind files (steps.take index)).recent →
    ReadsNow (PromptHistory.behind files (steps.take index)).files path answer
  /-- After a read that failed, the next load of the path reads it as it is then. -/
  repaired : ∀ earlier < index, FailsAt files steps earlier path →
    (∀ between, earlier < between → between < index →
      steps[between]? ≠ some (.load (some path))) →
    ReadsNow (PromptHistory.behind files (steps.take index)).files path answer

/-- In every run of loads of prompt files, clearances and changes of files, each load answers from
the last read of its path while this is one of the eight that were loaded last, and otherwise reads
the file as it is. -/
theorem run_answersLoad (world : World) (steps : List PromptStep) (index : Nat) (path : String)
    (hload : steps[index]? = some (.load (some path))) :
    ∃ answer,
      (run (start world) (steps.map PromptStep.toStep))[index]? =
        some (Except.map Answer.prompt answer) ∧
      AnswersLoad world.files steps index path answer := by
  have hfollows := follows_behind (follows_start world) (steps.take index)
  have hanswers := World.answers_loadPrompt hfollows.memory hfollows.files path
  refine ⟨_, ?_, ?_, hanswers.current, ?_⟩
  · rw [getElem?_run, List.getElem?_map, hload, ← List.map_take]
    rfl
  · intro hrecent
    obtain ⟨text, hlookup, hanswer⟩ := hanswers.recalled hrecent
    obtain ⟨earlier, hlast⟩ := PromptHistory.exists_isLastRead hlookup
    exact ⟨earlier, text, hlast, hanswer⟩
  · intro earlier hlt hfails hnext
    exact hanswers.current (PromptHistory.not_mem_recent_of_failsAt hfails hlt hnext)

/-- A file that is written after a failed load, read, and written again. -/
def rewrittenPrompt : List PromptStep :=
  [.load (some "p"), .write "p" (.file [97]), .load (some "p"), .write "p" (.file [98]),
    .load (some "p")]

def promptOf : Except Failure Answer → Option String
  | .ok (.prompt text) => some text
  | _ => none

/-- The last load answers what the file held at the second one. -/
theorem rewrittenPrompt_answersLoad :
    rewrittenPrompt[4]? = some (.load (some "p")) ∧
      (World.initial.files.write "p" (.file [98])).readText "p" ≠ .ok "a" ∧
      ∃ answer,
        (run (start World.initial) (rewrittenPrompt.map PromptStep.toStep))[4]? =
          some (Except.map Answer.prompt answer) ∧
        AnswersLoad World.initial.files rewrittenPrompt 4 "p" answer ∧
        answer = .ok "a" := by
  have hchanged :
      ((World.initial.files.write "p" (.file [98])).readText "p").toOption = some "b" := by
    decide +kernel
  have hprompt :
      (run (start World.initial) (rewrittenPrompt.map PromptStep.toStep))[4]?.map promptOf =
        some (some "a") := by
    decide +kernel
  obtain ⟨answer, hanswer, hload⟩ :=
    run_answersLoad World.initial rewrittenPrompt 4 "p" rfl
  refine ⟨rfl, ?_, answer, hanswer, hload, ?_⟩
  · intro hsame
    simp [hsame, Except.toOption] at hchanged
  · rw [hanswer] at hprompt
    cases answer with
    | error failure => simp [promptOf, Except.map] at hprompt
    | ok text => simpa [promptOf, Except.map] using hprompt

end Session

end ReviewContext

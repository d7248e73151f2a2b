import ReviewContext.Prompt.Basic
import ReviewContext.Proofs.Diff.NumberedView
import ReviewContext.Proofs.Prompt.Section
import ReviewContext.Proofs.Text.RowBeginning

/-!
# The numbered view in a prompt

All parts of a prompt are put in as they are, so instructions, context and code may hold fences of
their own. The numbered view can be read back all the same: its fence is the last one, because each
row of the view begins with a sign and not with a backquote.
-/

namespace ReviewContext

open ReviewContext.Text
open ReviewContext.Diff (FileDiff Kind)

namespace Text

/-- What follows the last occurrence of a mark. -/
def behindLast? (mark : List Char) : List Char → Option (List Char)
  | [] => mark.isPrefixOf? []
  | c :: rest => (behindLast? mark rest).or (mark.isPrefixOf? (c :: rest))

theorem behindLast?_eq_none {mark chars : List Char} :
    behindLast? mark chars = none ↔ ¬ mark <:+: chars := by
  have hprefix (chars : List Char) : mark.isPrefixOf? chars = none ↔ ¬ mark <+: chars := by
    rw [Option.eq_none_iff_forall_ne_some]
    simp only [ne_eq, List.isPrefixOf?_eq_some_iff_append_eq]
    exact not_exists.symm
  induction chars with
  | nil => rw [behindLast?, hprefix, List.infix_nil, List.prefix_nil]
  | cons c rest ih =>
    simp only [behindLast?, Option.or_eq_none_iff, ih, hprefix, List.infix_cons_iff, not_or]
    exact and_comm

theorem behindLast?_append {mark chars rest : List Char}
    (hrest : behindLast? mark chars = some rest) (front : List Char) :
    behindLast? mark (front ++ chars) = some rest := by
  induction front with
  | nil => exact hrest
  | cons c front ih => rw [List.cons_append, behindLast?, ih, Option.some_or]

/-- A mark is the last one if it does not occur from its second character on. -/
theorem behindLast?_of_last {c : Char} {mark rest : List Char}
    (hlast : ¬ c :: mark <:+: mark ++ rest) (front : List Char) :
    behindLast? (c :: mark) (front ++ (c :: mark ++ rest)) = some rest := by
  apply behindLast?_append
  rw [List.cons_append, behindLast?, behindLast?_eq_none.mpr hlast, Option.none_or,
    List.isPrefixOf?_eq_some_iff_append_eq, List.cons_append]

end Text

namespace Prompt

/-- The start of the fence around the numbered view, with the line feeds on both sides. -/
def fence : String :=
  "\n```diff\n"

/-- What follows the numbered view in every prompt. -/
def ending : String :=
  "\n```\n\n" ++ closing

/-- The numbered view as it is read back from a prompt: what stands behind the last fence, without
the ending. -/
def numberedView? (prompt : String) : Option String :=
  ((ending.toList.isSuffixOf? prompt.toList).bind (behindLast? fence.toList)).map String.ofList

theorem diffPart_eq (numbered : String) :
    diffPart numbered = "## Code change\n" ++ fence ++ numbered ++ "\n```" := by
  have hheading : "## Code change\n\n```diff\n" = "## Code change\n" ++ fence := by
    decide
  exact congrArg (fun heading => heading ++ numbered ++ "\n```") hheading

theorem ending_eq : ending = "\n```" ++ "\n\n" ++ closing := by
  have hmark : "\n```\n\n" = "\n```" ++ "\n\n" := by
    decide
  exact congrArg (fun mark => mark ++ closing) hmark

theorem exists_assemble_eq {numbered prompt : String} {blocks : List Block}
    {context system : Option String}
    (hprompt : assemble numbered blocks context system = .ok prompt) :
    ∃ front, prompt = front ++ fence ++ numbered ++ ending := by
  obtain ⟨code, -, rfl⟩ := map_eq_ok.mp hprompt
  have hparts : [system.getD builtIn] ++ contextPart context ++ code ≠ [] := by
    simp
  refine ⟨"\n\n".intercalate ([system.getD builtIn] ++ contextPart context ++ code) ++
    "\n\n" ++ "## Code change\n", ?_⟩
  rw [String.intercalate_append_of_ne_nil hparts (List.cons_ne_nil _ _),
    String.intercalate_cons_cons, String.intercalate_singleton, diffPart_eq, ending_eq]
  simp only [String.append_assoc]

section Recovery

variable {text path view prompt : String} {oldPath : Option String} {diff : FileDiff}
  {blocks : List Block} {context system : Option String}

/-- No row of a view can be taken for a fence. -/
theorem not_infix_view
    (hread : FileDiff.read text path oldPath = .ok diff)
    (hview : diff.numbered = .ok view) :
    ¬ '\n' :: "```diff\n".toList <:+: "```diff\n".toList ++ view.toList := by
  intro hwithin
  have hchars :
      "```diff\n".toList ++ view.toList = "```diff".toList ++ '\n' :: view.toList := by
    simp
  have hfirst : '\n' :: "```".toList <:+: "```diff\n".toList ++ view.toList := by
    have hprefix : '\n' :: "```".toList <+: '\n' :: "```diff\n".toList := by decide
    exact hprefix.isInfix.trans hwithin
  obtain ⟨row, hrow, hmark⟩ := exists_row_behind_feed (by decide) hfirst
  have hhead : row.head? = "```".toList.head? := by
    obtain ⟨behind, rfl⟩ := hmark
    rfl
  rw [hchars, List.splitOn_append_cons_self_of_not_mem (by decide), List.tail_cons] at hrow
  have hmem : String.ofList row ∈ rows view := List.mem_map_of_mem hrow
  rcases Diff.exists_sign_of_mem_rows_view hread hview hmem with hempty | ⟨kind, hsign⟩
  · have hnil : row = [] := by simpa using congrArg String.toList hempty
    rw [hnil] at hhead
    revert hhead
    decide
  · rw [String.toList_ofList, hhead] at hsign
    cases kind <;> revert hsign <;> decide

theorem numberedView?_eq
    (hread : FileDiff.read text path oldPath = .ok diff)
    (hview : diff.numbered = .ok view)
    (hprompt : assemble view blocks context system = .ok prompt) :
    numberedView? prompt = some view := by
  obtain ⟨front, hparts⟩ := exists_assemble_eq hprompt
  have hfence : fence.toList = '\n' :: "```diff\n".toList := by
    decide
  have hsuffix :
      ending.toList.isSuffixOf? prompt.toList =
        some (front.toList ++ (fence.toList ++ view.toList)) := by
    rw [List.isSuffixOf?_eq_some_iff_append_eq, hparts]
    simp only [String.toList_append, List.append_assoc]
  rw [numberedView?, hsuffix, Option.bind_some, hfence,
    behindLast?_of_last (not_infix_view hread hview), Option.map_some, String.ofList_toList]

/-- The numbered view of a diff is read back from every prompt that is made with it, so prompts with
different views differ. -/
theorem view_recovered_from_prompt
    (hread : FileDiff.read text path oldPath = .ok diff)
    (hview : diff.numbered = .ok view)
    (hprompt : assemble view blocks context system = .ok prompt) :
    numberedView? prompt = some view ∧
      ∀ (otherText otherPath otherView : String) (otherOldPath : Option String)
        (otherDiff : FileDiff) (otherBlocks : List Block) (otherContext otherSystem : Option String),
        FileDiff.read otherText otherPath otherOldPath = .ok otherDiff →
          otherDiff.numbered = .ok otherView →
            assemble otherView otherBlocks otherContext otherSystem = .ok prompt →
              otherView = view := by
  refine ⟨numberedView?_eq hread hview hprompt, ?_⟩
  intro otherText otherPath otherView otherOldPath otherDiff otherBlocks otherContext otherSystem
    hotherRead hotherView hotherPrompt
  have hother := numberedView?_eq hotherRead hotherView hotherPrompt
  rw [numberedView?_eq hread hview hprompt, Option.some_inj] at hother
  exact hother.symm

end Recovery

/-! A diff that adds an opening fence; instructions, a context and a block that hold one too. -/

namespace FencedLine

def text : String :=
  "@@ -0,0 +1,2 @@\n+```diff\n+x\n"

def diff : FileDiff :=
  ⟨"a.md", none, Diff.Cursor.start.run (Diff.diffRows text), [⟨0, 0, 1, 2⟩]⟩

def view : String :=
  " [1] @@ -0,0 +1,2 @@\n+[1] +```diff\n+[2] +x"

def fenced : String :=
  "\n```diff\n+[9] +y\n```"

def block : Block :=
  ⟨fenced, 1, 2, "unknown", none, .none⟩

end FencedLine

theorem fencedLine_recovered :
    FileDiff.read FencedLine.text "a.md" none = .ok FencedLine.diff ∧
      FencedLine.diff.numbered = .ok FencedLine.view ∧
      ∃ prompt,
        assemble FencedLine.view [FencedLine.block] (some FencedLine.fenced)
            (some FencedLine.fenced) = .ok prompt ∧
          numberedView? prompt = some FencedLine.view := by
  have hread : FileDiff.read FencedLine.text "a.md" none = .ok FencedLine.diff := by
    decide +kernel
  have hview : FencedLine.diff.numbered = .ok FencedLine.view := by
    decide +kernel
  obtain ⟨prompt, hprompt⟩ : ∃ prompt, assemble FencedLine.view [FencedLine.block]
      (some FencedLine.fenced) (some FencedLine.fenced) = .ok prompt :=
    exists_assemble_iff.mpr (by decide +kernel)
  exact ⟨hread, hview, prompt, hprompt, (view_recovered_from_prompt hread hview hprompt).1⟩

end Prompt

end ReviewContext

import Mathlib.Data.List.Sort
import ReviewContext.Proofs.Source.LineMap

/-!
# The line map and its inverse

In an ascending diff the line map and the way back from lines of the file undo each other: the file
line of a source line leads back to this line alone. The changed numbers of the diff lead back to
the places that its added records have among the lines of the source, blank ones left out.
-/

namespace ReviewContext

theorem LineSet.eq_of_mem_iff {first second : LineSet}
    (hmem : ∀ line, line ∈ first ↔ line ∈ second) :
    first = second := by
  have hlists : first.toList = second.toList :=
    first.ascending.eq_of_mem_iff second.ascending hmem
  cases first
  cases second
  simpa using hlists

namespace Source

open ReviewContext.Text
open ReviewContext.Diff (Record FileDiff)

/-! ## Back from a line of the file -/

namespace Rebuilt

variable {source : Rebuilt} {line : Int}

theorem getElem?_lineMap
    (hfirst : 1 ≤ line)
    (hlast : line ≤ source.lineMap.length) :
    source.lineMap[(line - 1).toNat]? = some (source.fileLine line) := by
  have hposition : min (max line 1) source.lineMap.length - 1 = line - 1 := by omega
  have hlength : (line - 1).toNat < source.lineMap.length := by omega
  rw [fileLine, hposition, List.getD_eq_getElem?_getD, List.getElem?_eq_getElem hlength,
    Option.getD_some]

/-- Where the map increases, no other line has the same number. -/
theorem sourceLinesFor_fileLine
    (hincreasing : source.lineMap.Pairwise (· < ·))
    (hfirst : 1 ≤ line)
    (hlast : line ≤ source.lineMap.length) :
    source.sourceLinesFor (LineSet.ofList [source.fileLine line]) = LineSet.ofList [line] := by
  have hline := getElem?_lineMap hfirst hlast
  have hnodup : source.lineMap.Nodup := hincreasing.imp Int.ne_of_lt
  apply LineSet.eq_of_mem_iff
  intro other
  rw [mem_sourceLinesFor, LineSet.mem_ofList, List.mem_singleton]
  constructor
  · rintro ⟨index, number, hnumber, hmem, rfl⟩
    rw [LineSet.mem_ofList, List.mem_singleton] at hmem
    have hindex : index < source.lineMap.length := (List.getElem?_eq_some_iff.mp hnumber).1
    have hsame : index = (line - 1).toNat := by
      refine (List.getElem?_inj hindex hnodup).mp ?_
      rw [hnumber, hline, hmem]
    omega
  · rintro rfl
    exact ⟨(other - 1).toNat, source.fileLine other, hline,
      LineSet.mem_ofList.mpr (List.mem_singleton.mpr rfl), by omega⟩

end Rebuilt

/-! ## Places of records in the source -/

/-- A kept element comes behind those that are kept in front of it. -/
theorem getElem?_filter_eq_some_iff {α : Type} {keep : α → Bool} {xs : List α} {index : Nat}
    {x : α} :
    (xs.filter keep)[index]? = some x ↔
      ∃ before after, xs = before ++ x :: after ∧ keep x = true ∧ before.countP keep = index := by
  constructor
  · intro hx
    obtain ⟨hlength, hget⟩ := List.getElem?_eq_some_iff.mp hx
    have hsplit := List.take_append_drop index (xs.filter keep)
    rw [List.drop_eq_getElem_cons hlength, hget] at hsplit
    obtain ⟨front, back, rfl, hfront, hback⟩ := List.filter_eq_append_iff.mp hsplit.symm
    obtain ⟨skipped, after, rfl, hskipped, hkeep, -⟩ := List.filter_eq_cons_iff.mp hback
    refine ⟨front ++ skipped, after, by simp, hkeep, ?_⟩
    have hnone : skipped.countP keep = 0 := List.countP_eq_zero.mpr hskipped
    rw [List.countP_append, hnone, List.countP_eq_length_filter, hfront, List.length_take]
    omega
  · rintro ⟨before, after, rfl, hkeep, rfl⟩
    rw [List.filter_append, List.filter_cons_of_pos hkeep, List.countP_eq_length_filter]
    simp

/-- The place, counted from one, of a source line that is shown behind some records. -/
def placeBehind (before : List Record) : Nat :=
  before.countP isSourceLine + 1

namespace HasRisingLines

variable {diff : FileDiff} {source : Rebuilt}

theorem shows_of_split (hrising : HasRisingLines diff)
    (hsource : rebuild? diff.records = some source)
    {before after : List Record} {record : Record}
    (hsplit : diff.records = before ++ record :: after)
    (hrecord : isSourceLine record = true) :
    source.lines[placeBehind before - 1]? = some (stripSign record.content) ∧
      record.newNumber = some (source.fileLine (placeBehind before)) := by
  have hkept : (keptRecords diff)[placeBehind before - 1]? = some record :=
    getElem?_filter_eq_some_iff.mpr ⟨before, after, hsplit, hrecord, rfl⟩
  obtain ⟨hlength, hget⟩ := List.getElem?_eq_some_iff.mp hkept
  have hpos : 1 ≤ placeBehind before := Nat.le_add_left 1 _
  constructor
  · rw [hrising.lines_eq hsource, List.getElem?_map, hkept, Option.map_some]
  · rw [fileLine_eq hsource hlength (by omega), hget]
    exact hrising.newNumber_eq (List.mem_of_getElem? hkept)

theorem mem_changedLines_iff (hrising : HasRisingLines diff)
    (hsource : rebuild? diff.records = some source) {line : Int} :
    line ∈ source.sourceLinesFor diff.changedNumbers ↔
      ∃ before record after,
        diff.records = before ++ record :: after ∧ record.kind = .added ∧
          isBlank (stripSign record.content) = false ∧ line = placeBehind before := by
  rw [hrising.mem_changedLines hsource]
  constructor
  · rintro ⟨index, record, hindex, hadded, rfl⟩
    obtain ⟨before, after, hsplit, hkept, rfl⟩ := getElem?_filter_eq_some_iff.mp hindex
    obtain ⟨-, -, -, hblank⟩ := isSourceLine_eq_true.mp hkept
    exact ⟨before, record, after, hsplit, hadded, hblank, by simp [placeBehind]⟩
  · rintro ⟨before, record, after, hsplit, hadded, hblank, rfl⟩
    have hmem : record ∈ diff.records := by simp [hsplit]
    have hkept := hrising.isSourceLine_of_added hmem hadded hblank
    refine ⟨before.countP isSourceLine, record, ?_, hadded, by simp [placeBehind]⟩
    exact getElem?_filter_eq_some_iff.mpr ⟨before, after, hsplit, hkept, rfl⟩

end HasRisingLines

/-- The line map of an ascending diff has a number for each line of the source, in increasing
order, and lines of the source and of the file lead to each other. The lines for the changed numbers
are the places of the added records that are not blank. -/
theorem lineMap_inverts {text path : String} {oldPath : Option String} {diff : FileDiff}
    {source : Rebuilt}
    (hread : FileDiff.read text path oldPath = .ok diff)
    (hascending : Diff.isAscending text = true)
    (hsource : rebuild? diff.records = some source) :
    source.lineMap.length = source.lines.length ∧
      source.lineMap.Pairwise (· < ·) ∧
      (∀ first last : Int, first ≤ last → source.fileLine first ≤ source.fileLine last) ∧
      (∀ line : Int, 1 ≤ line → line ≤ source.lines.length →
        source.sourceLinesFor (LineSet.ofList [source.fileLine line]) = LineSet.ofList [line]) ∧
      (∀ before record after, diff.records = before ++ record :: after →
        isSourceLine record = true →
          source.lines[placeBehind before - 1]? = some (stripSign record.content) ∧
            record.newNumber = some (source.fileLine (placeBehind before))) ∧
      ∀ line, line ∈ source.sourceLinesFor diff.changedNumbers ↔
        ∃ before record after,
          diff.records = before ++ record :: after ∧ record.kind = .added ∧
            isBlank (stripSign record.content) = false ∧ line = placeBehind before := by
  have hrising := hasRisingLines_of_read hread hascending
  have hincreasing := hrising.lineMap_increasing hsource
  obtain ⟨-, -, hmap⟩ := rebuild?_eq_some hsource
  have hlength : source.lineMap.length = source.lines.length := by
    rw [hmap, hrising.lines_eq hsource, List.length_map, List.length_map]
  refine ⟨hlength, hincreasing, ?_, ?_, ?_, ?_⟩
  · intro first last hle
    exact hrising.fileLine_mono hsource hle
  · intro line hfirst hlast
    exact Rebuilt.sourceLinesFor_fileLine hincreasing hfirst (by omega)
  · intro before record after hsplit hrecord
    exact hrising.shows_of_split hsource hsplit hrecord
  · intro line
    exact hrising.mem_changedLines_iff hsource

/-! ## Two hunks with blank lines -/

namespace SpacedHunks

def text : String :=
  "@@ -1,2 +1,2 @@\n a\n-b\n+\n@@ -7 +9,3 @@ f\n+c\n\\ x\n \t\n+d\n"

def diff : FileDiff where
  path := "a.c"
  oldPath := none
  records :=
    [⟨"@@ -1,2 +1,2 @@", .context, some 1, some 1, 1⟩, ⟨" a", .context, some 1, some 1, 1⟩,
      ⟨"-b", .removed, some 2, none, 2⟩, ⟨"+", .added, none, some 2, 2⟩,
      ⟨"@@ -7 +9,3 @@ f", .context, some 7, some 9, 9⟩, ⟨"+c", .added, none, some 9, 9⟩,
      ⟨"\\ x", .context, none, none, 10⟩, ⟨" \t", .context, some 7, some 10, 10⟩,
      ⟨"+d", .added, none, some 11, 11⟩]
  hunks := [⟨1, 2, 1, 2⟩, ⟨7, 0, 9, 3⟩]

def source : Rebuilt :=
  ⟨"a\nc\nd", [1, 9, 11]⟩

theorem read_text : FileDiff.read text "a.c" none = .ok diff := by
  decide +kernel

theorem rebuild?_records : rebuild? diff.records = some source := by
  decide +kernel

end SpacedHunks

/-- The last added line of the diff is the last of three lines of the source. -/
theorem spacedHunks_lineMap :
    Diff.isAscending SpacedHunks.text = true ∧
      SpacedHunks.source.fileLine (-5) ≤ SpacedHunks.source.fileLine 2 ∧
      SpacedHunks.source.sourceLinesFor (LineSet.ofList [SpacedHunks.source.fileLine 2]) =
        LineSet.ofList [2] ∧
      (3 : Int) ∈ SpacedHunks.source.sourceLinesFor SpacedHunks.diff.changedNumbers := by
  have hascending : Diff.isAscending SpacedHunks.text = true := by decide +kernel
  obtain ⟨-, -, hmono, hback, -, hchanged⟩ :=
    lineMap_inverts SpacedHunks.read_text hascending SpacedHunks.rebuild?_records
  refine ⟨hascending, hmono (-5) 2 (by decide), hback 2 (by decide) (by decide +kernel), ?_⟩
  rw [hchanged]
  exact ⟨SpacedHunks.diff.records.take 8, ⟨"+d", .added, none, some 11, 11⟩, [], rfl, rfl,
    by decide +kernel, by decide +kernel⟩

end Source

end ReviewContext

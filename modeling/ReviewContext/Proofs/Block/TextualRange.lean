import ReviewContext.Block.Textual
import ReviewContext.Proofs.Source.Inverse

/-!
# The range of the textual block

The textual block is measured by its range, which the numbers of the first and the last added record
bound, but its code has a row for each of the added records. It covers them within both ceilings,
whatever these are, exactly when the two numbers bound all others and leave a line for each record.
This is so in an ascending diff. If a hunk comes too early or has more rows than it announces, the
range can miss changed lines, end in front of its start, and let a block pass that has too many
rows.
-/

namespace ReviewContext

open ReviewContext.Text
open ReviewContext.Diff (Record FileDiff RisesFrom)
open ReviewContext.Source (fileNumber HasRisingLines)

/-- The range of the block is in order and holds some lines. -/
structure Block.Encloses (block : Block) (lines : LineSet) : Prop where
  ordered : block.first ≤ block.last
  covers : ∀ line ∈ lines, block.first ≤ line ∧ line ≤ block.last

/-- The range of the block holds some lines, and the block keeps to two ceilings. -/
structure Block.CoversWithin (block : Block) (lines : LineSet) (maxChars maxLines : Int) :
    Prop extends block.Encloses lines where
  length_le : (block.code.length : Int) ≤ maxChars
  lineCount_le : (block.lineCount : Int) ≤ maxLines

/-- The range of the block holds some lines and has one for each of a number of rows. -/
structure Block.HasRoomFor (block : Block) (lines : LineSet) (rowTotal : Nat) : Prop
    extends block.Encloses lines where
  room : (rowTotal : Int) ≤ block.last - block.first + 1

/-- The block of some added records, whatever its size. -/
def wholeTextualBlock (added : List Record) : Block :=
  ⟨joinRows (added.map addedText), firstNumber added, firstNumber added.reverse, "unknown", none,
    .none⟩

theorem textualBlock_eq_some_iff {diff : FileDiff} {maxChars maxLines : Int} {block : Block} :
    textualBlock diff.records maxChars maxLines = .ok (some block) ↔
      diff.added ≠ [] ∧ wholeTextualBlock diff.added = block ∧
        ((wholeTextualBlock diff.added).code.length : Int) ≤ maxChars ∧
        (wholeTextualBlock diff.added).last - (wholeTextualBlock diff.added).first + 1 ≤
          maxLines := by
  have hrecords : (diff.records.filter fun record => record.kind == .added) = diff.added := rfl
  simp only [textualBlock, hrecords, List.isEmpty_iff]
  by_cases hadded : diff.added = []
  · simp [hadded]
  · rw [if_neg hadded]
    split
    · rename_i hchars
      simp [wholeTextualBlock, Int.not_le.mpr hchars]
    · split
      · rename_i hlines
        simp [wholeTextualBlock, Int.not_le.mpr hlines]
      · rename_i hchars hlines
        simp [wholeTextualBlock, hadded, Int.not_lt.mp hchars, Int.not_lt.mp hlines]

/-! ## Rows of the block -/

theorem Block.lineCount_le_iff {block : Block} {parts : List String} {limit : Int}
    (hcode : block.code = joinRows parts)
    (hfeedless : ∀ part ∈ parts, '\n' ∉ part.toList)
    (hne : parts ≠ [])
    (hlimit : 1 ≤ limit) :
    (block.lineCount : Int) ≤ limit ↔ (parts.length : Int) ≤ limit := by
  have hrows : rows block.code = parts := by rw [hcode, rows_joinRows hfeedless hne]
  unfold lineCount
  split
  · -- An empty code still comes from one row, which is empty.
    rename_i hempty
    have hone : parts.length = 1 := by
      rw [← hrows, String.isEmpty_iff.mp hempty]
      decide
    rw [hone]
    omega
  · rw [hrows]

theorem feed_notMem_addedText {record : Record} (hcontent : '\n' ∉ record.content.toList) :
    '\n' ∉ (addedText record).toList := by
  unfold addedText
  split
  · rename_i rest hsign
    rw [String.toList_ofList]
    intro hmem
    exact hcontent (by simp [hsign, hmem])
  · exact hcontent

theorem lineCount_wholeTextualBlock_le_iff {text path : String} {oldPath : Option String}
    {diff : FileDiff} {limit : Int}
    (hread : FileDiff.read text path oldPath = .ok diff)
    (hadded : diff.added ≠ [])
    (hlimit : 1 ≤ limit) :
    ((wholeTextualBlock diff.added).lineCount : Int) ≤ limit ↔
      (diff.added.length : Int) ≤ limit := by
  rw [← List.length_map addedText]
  refine Block.lineCount_le_iff rfl ?_ (by simpa using hadded) hlimit
  intro part hpart
  obtain ⟨record, hrecord, rfl⟩ := List.mem_map.mp hpart
  exact feed_notMem_addedText
    (FileDiff.feed_notMem_of_read hread (Source.mem_added.mp hrecord).1)

/-! ## When the range fits -/

section Range

variable {text path : String} {oldPath : Option String} {diff : FileDiff}

theorem coversWithin_of_hasRoomFor {maxChars maxLines : Int} {block : Block}
    (hread : FileDiff.read text path oldPath = .ok diff)
    (hroom : (wholeTextualBlock diff.added).HasRoomFor diff.changedNumbers diff.added.length)
    (hblock : textualBlock diff.records maxChars maxLines = .ok (some block)) :
    block.CoversWithin diff.changedNumbers maxChars maxLines := by
  obtain ⟨hadded, rfl, hchars, hlines⟩ := textualBlock_eq_some_iff.mp hblock
  obtain ⟨hencloses, hrows⟩ := hroom
  have hordered := hencloses.ordered
  refine ⟨hencloses, hchars, ?_⟩
  rw [lineCount_wholeTextualBlock_le_iff hread hadded (by omega)]
  omega

theorem hasRoomFor_of_added_eq_nil (hadded : diff.added = []) :
    (wholeTextualBlock diff.added).HasRoomFor diff.changedNumbers diff.added.length := by
  rw [hadded]
  refine ⟨⟨by decide, ?_⟩, by decide⟩
  intro line hline
  obtain ⟨record, hrecord, -⟩ := Source.mem_changedNumbers.mp hline
  simp [hadded] at hrecord

/-- Ceilings that the whole block just meets show whether its range fits. -/
theorem hasRoomFor_of_coversWithin
    (hread : FileDiff.read text path oldPath = .ok diff)
    (hcovers : ∀ (maxChars maxLines : Int) (block : Block), 0 < maxChars → 0 < maxLines →
      textualBlock diff.records maxChars maxLines = .ok (some block) →
        block.CoversWithin diff.changedNumbers maxChars maxLines) :
    (wholeTextualBlock diff.added).HasRoomFor diff.changedNumbers diff.added.length := by
  by_cases hadded : diff.added = []
  · exact hasRoomFor_of_added_eq_nil hadded
  · generalize hwhole : wholeTextualBlock diff.added = whole
    have hblock : textualBlock diff.records (max 1 whole.code.length)
        (max 1 (whole.last - whole.first + 1)) = .ok (some whole) := by
      refine textualBlock_eq_some_iff.mpr ⟨hadded, hwhole, ?_, ?_⟩
      · rw [hwhole]
        omega
      · rw [hwhole]
        omega
    obtain ⟨hencloses, -, hcount⟩ := hcovers _ _ whole (by omega) (by omega) hblock
    have hordered := hencloses.ordered
    rw [← hwhole, lineCount_wholeTextualBlock_le_iff hread hadded (by omega), hwhole] at hcount
    exact ⟨hencloses, by omega⟩

/-! ## Ascending diffs -/

theorem length_le_of_ascending {numbers : List Int} {first last : Int}
    (hascending : numbers.Pairwise (· < ·))
    (hfirst : numbers.head? = some first)
    (hlast : numbers.getLast? = some last) :
    (∀ n ∈ numbers, first ≤ n ∧ n ≤ last) ∧ (numbers.length : Int) ≤ last - first + 1 := by
  induction numbers generalizing first with
  | nil => cases hfirst
  | cons n rest ih =>
    obtain rfl : n = first := by simpa using hfirst
    obtain ⟨habove, hrest⟩ := List.pairwise_cons.mp hascending
    cases rest with
    | nil =>
      obtain rfl : n = last := by simpa using hlast
      simp
    | cons next others =>
      obtain ⟨hbounds, hlength⟩ := ih hrest rfl (by simpa using hlast)
      have hlt := habove next List.mem_cons_self
      have hle := (hbounds next List.mem_cons_self).2
      constructor
      · intro m hm
        rcases List.mem_cons.mp hm with rfl | hother
        · omega
        · have hbound := hbounds m hother
          omega
      · rw [List.length_cons]
        omega

theorem firstNumber_eq {records : List Record}
    (hshown : ∀ record ∈ records, record.shownNew? = some (fileNumber record)) :
    firstNumber records = (records.map fileNumber).head?.getD 1 := by
  cases records with
  | nil => rfl
  | cons record rest => simp [firstNumber, hshown record List.mem_cons_self]

theorem bounds_wholeTextualBlock {added : List Record}
    (hadded : added ≠ [])
    (hshown : ∀ record ∈ added, record.shownNew? = some (fileNumber record))
    (hrises : RisesFrom 1 added) :
    (∀ record ∈ added, (wholeTextualBlock added).first ≤ fileNumber record ∧
        fileNumber record ≤ (wholeTextualBlock added).last) ∧
      (added.length : Int) ≤ (wholeTextualBlock added).last - (wholeTextualBlock added).first + 1 := by
  have hne : added.map fileNumber ≠ [] := by simpa using hadded
  have hfirst : (wholeTextualBlock added).first = (added.map fileNumber).head hne := by
    simp only [wholeTextualBlock, firstNumber_eq hshown, List.head?_eq_some_head hne,
      Option.getD_some]
  have hshownBack : ∀ record ∈ added.reverse, record.shownNew? = some (fileNumber record) := by
    simpa using hshown
  have hlast : (wholeTextualBlock added).last = (added.map fileNumber).getLast hne := by
    simp only [wholeTextualBlock, firstNumber_eq hshownBack, List.map_reverse, List.head?_reverse,
      List.getLast?_eq_some_getLast hne, Option.getD_some]
  obtain ⟨hbounds, hlength⟩ := length_le_of_ascending (List.pairwise_map.mpr hrises.increasing)
    (List.head?_eq_some_head hne) (List.getLast?_eq_some_getLast hne)
  rw [hfirst, hlast]
  constructor
  · intro record hrecord
    exact hbounds (fileNumber record) (List.mem_map_of_mem hrecord)
  · simpa using hlength

namespace Source.HasRisingLines

theorem rises_added (hrising : HasRisingLines diff) : RisesFrom 1 diff.added := by
  apply hrising.rises_filter
  intro record hrecord hkind
  exact hrising.isNewLine_of_added record hrecord (by simpa using hkind)

theorem shownNew?_of_added (hrising : HasRisingLines diff) {record : Record}
    (hrecord : record ∈ diff.added) :
    record.shownNew? = some (fileNumber record) := by
  obtain ⟨hmem, hadded⟩ := Source.mem_added.mp hrecord
  have hpos := hrising.rises_added.bounded record hrecord
  have hne : fileNumber record ≠ 0 := by omega
  have hnumber := Record.newNumber_of_isNewLine (hrising.isNewLine_of_added record hmem hadded)
  rw [Record.shownNew?, hnumber, Option.filter_some_pos]
  simpa using hne

theorem hasRoomFor (hrising : HasRisingLines diff) :
    (wholeTextualBlock diff.added).HasRoomFor diff.changedNumbers diff.added.length := by
  by_cases hadded : diff.added = []
  · exact hasRoomFor_of_added_eq_nil hadded
  · obtain ⟨hbounds, hlength⟩ := bounds_wholeTextualBlock hadded
      (fun _ hrecord => hrising.shownNew?_of_added hrecord) hrising.rises_added
    have hpos : 0 < diff.added.length := List.length_pos_iff.mpr hadded
    refine ⟨⟨by omega, ?_⟩, hlength⟩
    intro line hline
    obtain ⟨record, hrecord, hnumber, -⟩ := Source.mem_changedNumbers.mp hline
    rw [← Record.fileNumber_of_newNumber hnumber]
    exact hbounds record hrecord

end Source.HasRisingLines

/-- A textual block keeps to the ceiling for characters. It covers the changed lines within both
ceilings, whatever they are, exactly when its range fits, as it does in an ascending diff. -/
theorem textualBlock_coversWithin_iff (hread : FileDiff.read text path oldPath = .ok diff) :
    (∀ (maxChars maxLines : Int) (block : Block),
        textualBlock diff.records maxChars maxLines = .ok (some block) →
          (block.code.length : Int) ≤ maxChars) ∧
      ((∀ (maxChars maxLines : Int) (block : Block), 0 < maxChars → 0 < maxLines →
          textualBlock diff.records maxChars maxLines = .ok (some block) →
            block.CoversWithin diff.changedNumbers maxChars maxLines) ↔
        (wholeTextualBlock diff.added).HasRoomFor diff.changedNumbers diff.added.length) ∧
      (Diff.isAscending text = true →
        (wholeTextualBlock diff.added).HasRoomFor diff.changedNumbers diff.added.length) := by
  refine ⟨?_, ⟨hasRoomFor_of_coversWithin hread, ?_⟩, ?_⟩
  · intro maxChars maxLines block hblock
    obtain ⟨-, rfl, hchars, -⟩ := textualBlock_eq_some_iff.mp hblock
    exact hchars
  · intro hroom maxChars maxLines block _ _ hblock
    exact coversWithin_of_hasRoomFor hread hroom hblock
  · intro hascending
    exact (Source.hasRisingLines_of_read hread hascending).hasRoomFor

end Range

/-- The added lines 2, 9 and 11 give three rows in a range of ten. -/
theorem spacedHunks_coversWithin :
    Block.CoversWithin ⟨"\nc\nd", 2, 11, "unknown", none, .none⟩
      Source.SpacedHunks.diff.changedNumbers 4 10 := by
  obtain ⟨-, hiff, hroom⟩ := textualBlock_coversWithin_iff Source.SpacedHunks.read_text
  exact hiff.mpr (hroom (by decide +kernel)) 4 10 _ (by decide) (by decide) (by decide +kernel)

/-! ## Hunks in descending order -/

namespace DescendingHunks

def text : String :=
  "@@ -9,0 +10 @@\n+b\n@@ -0,0 +1 @@\n+a\n"

def diff : FileDiff where
  path := "a.txt"
  oldPath := none
  records :=
    [⟨"@@ -9,0 +10 @@", .context, some 9, some 10, 10⟩, ⟨"+b", .added, none, some 10, 10⟩,
      ⟨"@@ -0,0 +1 @@", .context, some 0, some 1, 1⟩, ⟨"+a", .added, none, some 1, 1⟩]
  hunks := [⟨9, 0, 10, 0⟩, ⟨0, 0, 1, 0⟩]

/-- Two rows pass the ceiling of one line, since their range has none. -/
def block : Block :=
  ⟨"b\na", 10, 1, "unknown", none, .none⟩

theorem read_text : FileDiff.read text "a.txt" none = .ok diff := by
  decide +kernel

theorem textualBlock_records : textualBlock diff.records 100 1 = .ok (some block) := by
  decide +kernel

theorem not_coversWithin : ¬ block.CoversWithin diff.changedNumbers 100 1 := by
  intro hcovers
  have hordered := hcovers.ordered
  revert hordered
  decide

end DescendingHunks

/-- A textual block can have a range that ends in front of its start. -/
theorem exists_textualBlock_without_range :
    ¬ ∀ (text path : String) (oldPath : Option String) (diff : FileDiff)
      (maxChars maxLines : Int) (block : Block),
      FileDiff.read text path oldPath = .ok diff → 0 < maxChars → 0 < maxLines →
        textualBlock diff.records maxChars maxLines = .ok (some block) →
          block.CoversWithin diff.changedNumbers maxChars maxLines := by
  intro hcovers
  exact DescendingHunks.not_coversWithin
    (hcovers DescendingHunks.text "a.txt" none DescendingHunks.diff 100 1 DescendingHunks.block
      DescendingHunks.read_text (by decide) (by decide) DescendingHunks.textualBlock_records)

end ReviewContext

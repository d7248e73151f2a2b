import Mathlib.Data.List.Nodup
import ReviewContext.Proofs.Diff.Ascending
import ReviewContext.Text.Slice

/-!
# The line map of an ascending diff

The lines of a rebuilt source are the lines of the new file that are not blank, and in an ascending
diff the line map gives them strictly increasing numbers. A range of source lines is therefore cut
out of the source by the numbers of its two ends, and a line of the file stands for one source line
at most.
-/

namespace ReviewContext.Source

open ReviewContext.Text
open ReviewContext.Diff (Record FileDiff RisesFrom)

/-- The records that contribute the lines of the source. -/
def keptRecords (diff : FileDiff) : List Record :=
  diff.records.filter isSourceLine

theorem isSourceLine_eq_true {record : Record} :
    isSourceLine record = true ↔
      record.kind ≠ .removed ∧ record.isUnlabeled = false ∧ record.isHeader = false ∧
        isBlank (stripSign record.content) = false := by
  simp [isSourceLine, and_assoc]

/-- What an ascending diff says about its records. -/
structure HasRisingLines (diff : FileDiff) : Prop where
  feedFree : ∀ record ∈ diff.records, '\n' ∉ record.content.toList
  isNewLine_of_isSourceLine :
    ∀ record ∈ diff.records, isSourceLine record = true → record.isNewLine = true
  isNewLine_of_added :
    ∀ record ∈ diff.records, record.kind = .added → record.isNewLine = true
  rises : RisesFrom 1 (diff.records.filter Record.isNewLine)

section Read

variable {text path : String} {oldPath : Option String} {diff : FileDiff} {record : Record}

theorem isNewLine_of_isSourceLine
    (hread : FileDiff.read text path oldPath = .ok diff)
    (hrecord : record ∈ diff.records)
    (hsource : isSourceLine record = true) :
    record.isNewLine = true := by
  rw [FileDiff.eq_of_read hread] at hrecord
  obtain ⟨before, after, row, hrow, htakes⟩ := Diff.Cursor.exists_takes_of_mem_run hrecord
  obtain ⟨hremoved, hlabeled, hheader, -⟩ := isSourceLine_eq_true.mp hsource
  cases htakes <;> simp_all [Record.isNewLine, Record.isUnlabeled]

theorem isNewLine_of_added
    (hread : FileDiff.read text path oldPath = .ok diff)
    (hrecord : record ∈ diff.records)
    (hadded : record.kind = .added) :
    record.isNewLine = true := by
  rw [FileDiff.eq_of_read hread] at hrecord
  obtain ⟨before, after, row, hrow, htakes⟩ := Diff.Cursor.exists_takes_of_mem_run hrecord
  have hisHeader := htakes.isHeader_eq
  cases htakes <;> simp_all [Record.isNewLine]

theorem hasRisingLines_of_read
    (hread : FileDiff.read text path oldPath = .ok diff)
    (hascending : Diff.isAscending text = true) :
    HasRisingLines diff where
  feedFree _ hrecord := FileDiff.feed_notMem_of_read hread hrecord
  isNewLine_of_isSourceLine _ hrecord hsource := isNewLine_of_isSourceLine hread hrecord hsource
  isNewLine_of_added _ hrecord hadded := isNewLine_of_added hread hrecord hadded
  rises := Diff.rises_of_isAscending hread hascending

end Read

namespace HasRisingLines

variable {diff : FileDiff}

theorem mem_newLines (hrising : HasRisingLines diff) {record : Record}
    (hrecord : record ∈ keptRecords diff) :
    record ∈ diff.records.filter Record.isNewLine := by
  obtain ⟨hmem, hsource⟩ := List.mem_filter.mp hrecord
  exact List.mem_filter.mpr ⟨hmem, hrising.isNewLine_of_isSourceLine record hmem hsource⟩

theorem newNumber_eq (hrising : HasRisingLines diff) {record : Record}
    (hrecord : record ∈ keptRecords diff) :
    record.newNumber = some (fileNumber record) :=
  Record.newNumber_of_isNewLine (List.mem_filter.mp (hrising.mem_newLines hrecord)).2

theorem rises_filter (hrising : HasRisingLines diff) {keep : Record → Bool}
    (hkeep : ∀ record ∈ diff.records, keep record = true → record.isNewLine = true) :
    RisesFrom 1 (diff.records.filter keep) := by
  have hkept :
      diff.records.filter keep = (diff.records.filter Record.isNewLine).filter keep := by
    rw [List.filter_filter]
    refine List.filter_congr fun record hrecord => ?_
    cases hrecordKept : keep record with
    | false => rfl
    | true => simp [hkeep record hrecord hrecordKept]
  rw [hkept]
  exact hrising.rises.sublist List.filter_sublist

theorem keptRecords_increasing (hrising : HasRisingLines diff) :
    (keptRecords diff).Pairwise fun first second => fileNumber first < fileNumber second :=
  (hrising.rises_filter hrising.isNewLine_of_isSourceLine).increasing

theorem eq_of_fileNumber_eq (hrising : HasRisingLines diff) {first second : Record}
    (hfirst : first ∈ diff.records.filter Record.isNewLine)
    (hsecond : second ∈ diff.records.filter Record.isNewLine)
    (hnumber : fileNumber first = fileNumber second) :
    first = second := by
  have hnodup : ((diff.records.filter Record.isNewLine).map fileNumber).Nodup := by
    refine List.pairwise_map.mpr (hrising.rises.increasing.imp fun hlt => ?_)
    exact Int.ne_of_lt hlt
  exact List.inj_on_of_nodup_map hnodup hfirst hsecond hnumber

end HasRisingLines

/-! ## Lines of the source -/

theorem feed_notMem_stripSign {content : String} (hcontent : '\n' ∉ content.toList) :
    '\n' ∉ (stripSign content).toList := by
  unfold stripSign
  split
  · rename_i sign rest hsign
    split
    · rw [String.toList_ofList]
      intro hmem
      exact hcontent (by simp [hsign, hmem])
    · exact hcontent
  · exact hcontent

theorem rebuild?_eq_some {diff : FileDiff} {source : Rebuilt}
    (hsource : rebuild? diff.records = some source) :
    keptRecords diff ≠ [] ∧
      source.text = joinRows ((keptRecords diff).map fun record => stripSign record.content) ∧
      source.lineMap = (keptRecords diff).map fileNumber := by
  simp only [rebuild?] at hsource
  split at hsource
  · cases hsource
  · rename_i hkept
    cases hsource
    refine ⟨?_, rfl, rfl⟩
    simpa [keptRecords, List.isEmpty_iff] using hkept

/-- The lines of a rebuilt source are those of the records that contribute to it. -/
theorem lines_eq_of_feedFree {diff : FileDiff} {source : Rebuilt}
    (hfree : ∀ record ∈ diff.records, '\n' ∉ record.content.toList)
    (hsource : rebuild? diff.records = some source) :
    source.lines = (keptRecords diff).map fun record => stripSign record.content := by
  obtain ⟨hne, htext, -⟩ := rebuild?_eq_some hsource
  rw [Rebuilt.lines, htext]
  refine rows_joinRows ?_ (by simpa using hne)
  intro line hline
  obtain ⟨record, hrecord, rfl⟩ := List.mem_map.mp hline
  exact feed_notMem_stripSign (hfree record (List.mem_filter.mp hrecord).1)

namespace HasRisingLines

variable {diff : FileDiff} {source : Rebuilt}

theorem lines_eq (hrising : HasRisingLines diff)
    (hsource : rebuild? diff.records = some source) :
    source.lines = (keptRecords diff).map fun record => stripSign record.content :=
  lines_eq_of_feedFree hrising.feedFree hsource

theorem lineMap_increasing (hrising : HasRisingLines diff)
    (hsource : rebuild? diff.records = some source) :
    source.lineMap.Pairwise (· < ·) := by
  obtain ⟨-, -, hmap⟩ := rebuild?_eq_some hsource
  rw [hmap]
  exact List.pairwise_map.mpr hrising.keptRecords_increasing

end HasRisingLines

/-- The file line of a line is the number of its record, or of the nearest one. -/
theorem fileLine_eq {diff : FileDiff} {source : Rebuilt} {index : Nat} {line : Int}
    (hsource : rebuild? diff.records = some source)
    (hindex : index < (keptRecords diff).length)
    (hline : min (max line 1) (keptRecords diff).length = index + 1) :
    source.fileLine line = fileNumber (keptRecords diff)[index] := by
  obtain ⟨-, -, hmap⟩ := rebuild?_eq_some hsource
  have hposition : (min (max line 1) source.lineMap.length - 1).toNat = index := by
    rw [hmap, List.length_map]
    omega
  unfold Rebuilt.fileLine
  rw [hposition, hmap]
  simp [hindex]

namespace HasRisingLines

variable {diff : FileDiff} {source : Rebuilt}

theorem fileLine_mono (hrising : HasRisingLines diff)
    (hsource : rebuild? diff.records = some source) {first last : Int}
    (hle : first ≤ last) :
    source.fileLine first ≤ source.fileLine last := by
  have hincreasing := hrising.lineMap_increasing hsource
  obtain ⟨hne, -, hmap⟩ := rebuild?_eq_some hsource
  have hlength : 0 < source.lineMap.length := by
    rw [hmap, List.length_map]
    exact List.length_pos_iff.mpr hne
  unfold Rebuilt.fileLine
  generalize hfrom : (min (max first 1) source.lineMap.length - 1).toNat = i
  generalize hto : (min (max last 1) source.lineMap.length - 1).toNat = j
  have hi : i < source.lineMap.length := by omega
  have hj : j < source.lineMap.length := by omega
  rw [List.getD_eq_getElem?_getD, List.getD_eq_getElem?_getD, List.getElem?_eq_getElem hi,
    List.getElem?_eq_getElem hj, Option.getD_some, Option.getD_some]
  rcases Nat.lt_or_ge i j with hlt | hge
  · exact Int.le_of_lt (List.pairwise_iff_getElem.mp hincreasing i j hi hj hlt)
  · have heq : i = j := by omega
    subst heq
    exact Int.le_refl _

end HasRisingLines

/-! ## Ranges of the source -/

section Stretches

variable {α β : Type}

def isBetween (key : α → Int) (low high : Int) (x : α) : Bool :=
  low ≤ key x && key x ≤ high

theorem isBetween_eq_true {key : α → Int} {low high : Int} {x : α} :
    isBetween key low high x = true ↔ low ≤ key x ∧ key x ≤ high := by
  simp [isBetween]

/-- In a list with strictly increasing keys, a stretch is what lies between its two ends. -/
theorem filter_isBetween {key : α → Int} {xs : List α} {i j : Nat}
    (hincreasing : xs.Pairwise fun first second => key first < key second)
    (hij : i ≤ j)
    (hj : j < xs.length) :
    xs.filter (isBetween key (key xs[i]) (key xs[j])) = (xs.take (j + 1)).drop i := by
  have hkey := List.pairwise_iff_getElem.mp hincreasing
  have hfront : ((xs.take (j + 1)).take i).filter (isBetween key (key xs[i]) (key xs[j])) = [] := by
    refine List.filter_eq_nil_iff.mpr fun x hx => ?_
    obtain ⟨k, hk, rfl⟩ := List.mem_iff_getElem.mp hx
    simp only [List.length_take] at hk
    have hlt := hkey k i (by omega) (by omega) (by omega)
    simp only [List.getElem_take, isBetween_eq_true]
    omega
  have hmiddle :
      ((xs.take (j + 1)).drop i).filter (isBetween key (key xs[i]) (key xs[j])) =
        (xs.take (j + 1)).drop i := by
    refine List.filter_eq_self.mpr fun x hx => ?_
    obtain ⟨k, hk, rfl⟩ := List.mem_iff_getElem.mp hx
    simp only [List.length_drop, List.length_take] at hk
    simp only [List.getElem_drop, List.getElem_take, isBetween_eq_true]
    constructor
    · rcases Nat.eq_zero_or_pos k with rfl | hpos
      · exact Int.le_refl _
      · exact Int.le_of_lt (hkey i (i + k) (by omega) (by omega) (by omega))
    · rcases Nat.lt_or_ge (i + k) j with hlt | hge
      · exact Int.le_of_lt (hkey (i + k) j (by omega) hj hlt)
      · have heq : i + k = j := by omega
        simp [heq]
  have hback : (xs.drop (j + 1)).filter (isBetween key (key xs[i]) (key xs[j])) = [] := by
    refine List.filter_eq_nil_iff.mpr fun x hx => ?_
    obtain ⟨k, hk, rfl⟩ := List.mem_iff_getElem.mp hx
    simp only [List.length_drop] at hk
    have hlt := hkey j (j + 1 + k) hj (by omega) (by omega)
    simp only [List.getElem_drop, isBetween_eq_true]
    omega
  calc
    xs.filter (isBetween key (key xs[i]) (key xs[j])) =
        ((xs.take (j + 1)).take i ++ (xs.take (j + 1)).drop i ++ xs.drop (j + 1)).filter
          (isBetween key (key xs[i]) (key xs[j])) := by
      rw [List.take_append_drop, List.take_append_drop]
    _ = (xs.take (j + 1)).drop i := by
      rw [List.filter_append, List.filter_append, hfront, hmiddle, hback, List.nil_append,
        List.append_nil]

theorem slice_map (f : α → β) (xs : List α) (start stop : Int) :
    slice (xs.map f) start stop = (slice xs start stop).map f := by
  simp [slice, List.map_take, List.map_drop]

end Stretches

/-- A range of source lines is cut out by the file lines of its ends, also where it runs past the
end of the source. -/
theorem HasRisingLines.slice_keptRecords {diff : FileDiff} {source : Rebuilt} {first last : Int}
    (hrising : HasRisingLines diff)
    (hsource : rebuild? diff.records = some source)
    (hpos : 1 ≤ first)
    (hlength : first ≤ (keptRecords diff).length)
    (hle : first ≤ last) :
    slice (keptRecords diff) (first - 1) last =
      (keptRecords diff).filter
        (isBetween fileNumber (source.fileLine first) (source.fileLine last)) := by
  obtain ⟨i, hi⟩ : ∃ i : Nat, first = i + 1 := ⟨(first - 1).toNat, by omega⟩
  -- The last line may lie behind the source; both sides then stop at its end.
  obtain ⟨j, hj⟩ : ∃ j : Nat, min last (keptRecords diff).length = j + 1 :=
    ⟨(min last (keptRecords diff).length - 1).toNat, by omega⟩
  rw [@fileLine_eq diff source i first hsource (by omega) (by omega),
    @fileLine_eq diff source j last hsource (by omega) (by omega),
    filter_isBetween hrising.keptRecords_increasing (by omega) (by omega)]
  have hstart : slicePosition (keptRecords diff).length (first - 1) = i := by
    unfold slicePosition
    split <;> omega
  have hstop : slicePosition (keptRecords diff).length last = j + 1 := by
    unfold slicePosition
    split <;> omega
  rw [slice, hstart, hstop]

/-! ## Changed lines -/

theorem mem_sourceLinesFor {source : Rebuilt} {numbers : LineSet} {line : Int} :
    line ∈ source.sourceLinesFor numbers ↔
      ∃ (index : Nat) (number : Int),
        source.lineMap[index]? = some number ∧ number ∈ numbers ∧ line = index + 1 := by
  rw [Rebuilt.sourceLinesFor, LineSet.mem_ofList, List.mem_filterMap]
  constructor
  · rintro ⟨⟨number, index⟩, hmem, hline⟩
    rw [List.mem_zipIdx_iff_getElem?] at hmem
    dsimp only at hmem hline
    split at hline
    · rename_i hcontains
      refine ⟨index, number, hmem, LineSet.contains_iff.mp hcontains, ?_⟩
      simpa using hline.symm
    · cases hline
  · rintro ⟨index, number, hnumber, hmem, rfl⟩
    refine ⟨(number, index), List.mem_zipIdx_iff_getElem?.mpr hnumber, ?_⟩
    simp [LineSet.contains_iff.mpr hmem]

theorem mem_changedNumbers {diff : FileDiff} {number : Int} :
    number ∈ diff.changedNumbers ↔
      ∃ record ∈ diff.added, record.newNumber = some number ∧ number ≠ 0 := by
  simp [FileDiff.changedNumbers, LineSet.mem_ofList, Record.shownNew?, Option.filter_eq_some_iff]

theorem mem_added {diff : FileDiff} {record : Record} :
    record ∈ diff.added ↔ record ∈ diff.records ∧ record.kind = .added := by
  simp [FileDiff.added, FileDiff.ofKind]

theorem HasRisingLines.isSourceLine_of_added {diff : FileDiff} {record : Record}
    (hrising : HasRisingLines diff)
    (hrecord : record ∈ diff.records)
    (hadded : record.kind = .added)
    (hblank : isBlank (stripSign record.content) = false) :
    isSourceLine record = true := by
  have hnew := hrising.isNewLine_of_added record hrecord hadded
  simp only [Record.isNewLine, Bool.and_eq_true, Bool.not_eq_true'] at hnew
  refine isSourceLine_eq_true.mpr ⟨?_, ?_, hnew.1, hblank⟩
  · simp [hadded]
  · simp [Record.isUnlabeled, hadded]

/-- The changed lines of the source are the places of the added records among its lines. -/
theorem HasRisingLines.mem_changedLines {diff : FileDiff} {source : Rebuilt} {line : Int}
    (hrising : HasRisingLines diff)
    (hsource : rebuild? diff.records = some source) :
    line ∈ source.sourceLinesFor diff.changedNumbers ↔
      ∃ (index : Nat) (record : Record),
        (keptRecords diff)[index]? = some record ∧ record.kind = .added ∧ line = index + 1 := by
  obtain ⟨-, -, hmap⟩ := rebuild?_eq_some hsource
  simp only [mem_sourceLinesFor, hmap, List.getElem?_map, Option.map_eq_some_iff]
  constructor
  · rintro ⟨index, number, ⟨record, hindex, hnumber⟩, hchanged, hline⟩
    refine ⟨index, record, hindex, ?_, hline⟩
    obtain ⟨other, hother, hsome, -⟩ := mem_changedNumbers.mp hchanged
    obtain ⟨hmem, hadded⟩ := mem_added.mp hother
    have hnew : other ∈ diff.records.filter Record.isNewLine :=
      List.mem_filter.mpr ⟨hmem, hrising.isNewLine_of_added other hmem hadded⟩
    have hkept := hrising.mem_newLines (List.mem_of_getElem? hindex)
    -- Some added record has this number, and numbers are not used twice.
    have heq : record = other := by
      refine hrising.eq_of_fileNumber_eq hkept hnew ?_
      rw [hnumber, Record.fileNumber_of_newNumber hsome]
    rw [heq]
    exact hadded
  · rintro ⟨index, record, hindex, hadded, hline⟩
    have hkept := List.mem_of_getElem? hindex
    have hpos := hrising.rises.bounded record (hrising.mem_newLines hkept)
    refine ⟨index, fileNumber record, ⟨record, hindex, rfl⟩, ?_, hline⟩
    refine mem_changedNumbers.mpr ⟨record, ?_, hrising.newNumber_eq hkept, by omega⟩
    exact mem_added.mpr ⟨(List.mem_filter.mp hkept).1, hadded⟩

end ReviewContext.Source

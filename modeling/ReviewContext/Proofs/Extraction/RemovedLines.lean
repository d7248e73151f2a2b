import ReviewContext.Proofs.Extraction.Structural

/-!
# Extraction without the removed lines

An extraction looks at a diff through its path, its added records and the records that contribute
lines to the source, and never at an old number. Removed records, headers, rows that belong to
neither file and blank context are passed over. Two diffs of one file that differ in such records
alone have the same extraction.
-/

namespace ReviewContext

open ReviewContext.Text
open ReviewContext.Diff (Record FileDiff)
open ReviewContext.Source (isSourceLine stripSign fileNumber keptRecords rebuild?)

/-! ## Records that are looked at -/

namespace Diff.Record

/-- Whether the record is removed, a header, a row of neither file, or blank context. -/
def isPassedOver (record : Record) : Bool :=
  record.kind == .removed || record.isHeader || record.isUnlabeled ||
    (record.kind == .context && isBlank record.content)

def withoutOld (record : Record) : Record :=
  { record with oldNumber := none }

theorem shownNew?_withoutOld (record : Record) : record.withoutOld.shownNew? = record.shownNew? :=
  rfl

theorem fileNumber_withoutOld (record : Record) :
    fileNumber record.withoutOld = fileNumber record :=
  rfl

theorem addedText_withoutOld (record : Record) : addedText record.withoutOld = addedText record :=
  rfl

end Diff.Record

namespace Diff.FileDiff

/-- The records that are not passed over, without their old numbers. -/
def newSide (diff : FileDiff) : List Record :=
  (diff.records.filter fun record => !record.isPassedOver).map Record.withoutOld

theorem filter_newSide (diff : FileDiff) {keep : Record → Bool}
    (hkeep : ∀ record, keep record.withoutOld = keep record) :
    diff.newSide.filter keep =
      (diff.records.filter fun record => keep record && !record.isPassedOver).map
        Record.withoutOld := by
  have hcomp : keep ∘ Record.withoutOld = keep := funext hkeep
  rw [newSide, List.filter_map, hcomp, List.filter_filter]

end Diff.FileDiff

theorem isBlank_stripSign {content : String} (hblank : isBlank content = true) :
    isBlank (stripSign content) = true := by
  unfold stripSign
  split
  · rename_i sign rest hcontent
    split
    · simp_all [isBlank]
    · exact hblank
  · exact hblank

theorem isSourceLine_eq (record : Record) :
    isSourceLine record = (!isBlank (stripSign record.content) && !record.isPassedOver) := by
  have hstrip := @isBlank_stripSign record.content
  rw [Bool.eq_iff_iff, Source.isSourceLine_eq_true]
  simp only [Record.isPassedOver, Bool.and_eq_true, Bool.not_eq_true', Bool.or_eq_false_iff,
    beq_eq_false_iff_ne, Bool.and_eq_false_imp, beq_iff_eq]
  constructor
  · rintro ⟨hremoved, hlabeled, hheader, hvisible⟩
    have hcontent : isBlank record.content = false := by
      by_contra hblank
      rw [Bool.not_eq_false] at hblank
      rw [hstrip hblank] at hvisible
      cases hvisible
    exact ⟨hvisible, ⟨⟨hremoved, hheader⟩, hlabeled⟩, fun _ => hcontent⟩
  · rintro ⟨hvisible, ⟨⟨hremoved, hheader⟩, hlabeled⟩, -⟩
    exact ⟨hremoved, hlabeled, hheader, hvisible⟩

theorem map_keptRecords (diff : FileDiff) :
    (keptRecords diff).map Record.withoutOld =
      diff.newSide.filter fun record => !isBlank (stripSign record.content) := by
  rw [diff.filter_newSide fun record => rfl, keptRecords]
  congr 1
  exact List.filter_congr fun record _ => isSourceLine_eq record

theorem map_added {text path : String} {oldPath : Option String} {diff : FileDiff}
    (hread : FileDiff.read text path oldPath = .ok diff) :
    diff.added.map Record.withoutOld = diff.newSide.filter fun record => record.kind == .added := by
  rw [diff.filter_newSide fun record => rfl]
  congr 1
  apply List.filter_congr
  intro record hrecord
  rw [FileDiff.eq_of_read hread] at hrecord
  obtain ⟨before, after, row, -, htakes⟩ := Diff.Cursor.exists_takes_of_mem_run hrecord
  have hheader := htakes.isHeader_eq
  cases htakes <;> simp_all [Record.isPassedOver, Record.isUnlabeled]

/-! ## Diffs with the same new side -/

/-- What is read off without the old numbers is the same for both diffs. -/
theorem map_eq_of_withoutOld {records others : List Record} {α : Type} {read : Record → α}
    (hrecords : records.map Record.withoutOld = others.map Record.withoutOld)
    (hread : ∀ record, read record.withoutOld = read record) :
    records.map read = others.map read := by
  have hcomp : read ∘ Record.withoutOld = read := funext hread
  have hmap := congrArg (List.map read) hrecords
  rwa [List.map_map, List.map_map, hcomp] at hmap

theorem firstNumber_eq_of_withoutOld {records others : List Record}
    (hrecords : records.map Record.withoutOld = others.map Record.withoutOld) :
    firstNumber records = firstNumber others := by
  have hnumbers := congrArg List.head? (map_eq_of_withoutOld hrecords Record.shownNew?_withoutOld)
  rw [List.head?_map, List.head?_map] at hnumbers
  have hshown := congrArg (fun number => number.bind id) hnumbers
  simp only [Option.bind_map, Function.id_comp] at hshown
  rw [firstNumber, firstNumber, hshown]

/-- The diffs give an extraction the same things to look at. -/
structure LooksLike (first second : FileDiff) : Prop where
  path : first.path = second.path
  kept : (keptRecords first).map Record.withoutOld = (keptRecords second).map Record.withoutOld
  added : first.added.map Record.withoutOld = second.added.map Record.withoutOld

theorem looksLike_of_newSide_eq {firstText secondText path : String}
    {firstOld secondOld : Option String} {first second : FileDiff}
    (hfirst : FileDiff.read firstText path firstOld = .ok first)
    (hsecond : FileDiff.read secondText path secondOld = .ok second)
    (hside : first.newSide = second.newSide) :
    LooksLike first second := by
  constructor
  · rw [FileDiff.eq_of_read hfirst, FileDiff.eq_of_read hsecond]
  · rw [map_keptRecords, map_keptRecords, hside]
  · rw [map_added hfirst, map_added hsecond, hside]

namespace LooksLike

variable {first second : FileDiff}

theorem isEmpty_added_eq (hlooks : LooksLike first second) :
    first.added.isEmpty = second.added.isEmpty := by
  have hempty := congrArg List.isEmpty hlooks.added
  simpa using hempty

theorem changedNumbers_eq (hlooks : LooksLike first second) :
    first.changedNumbers = second.changedNumbers := by
  have hnumbers : first.added.map Record.shownNew? = second.added.map Record.shownNew? :=
    map_eq_of_withoutOld hlooks.added Record.shownNew?_withoutOld
  have hfilter := congrArg (List.filterMap id) hnumbers
  simp only [List.filterMap_map, Function.id_comp] at hfilter
  rw [FileDiff.changedNumbers, FileDiff.changedNumbers, hfilter]

theorem rebuild?_eq (hlooks : LooksLike first second) :
    rebuild? first.records = rebuild? second.records := by
  have hempty := congrArg List.isEmpty hlooks.kept
  have htexts :
      ((keptRecords first).map fun record => stripSign record.content) =
        (keptRecords second).map fun record => stripSign record.content :=
    map_eq_of_withoutOld hlooks.kept fun _ => rfl
  have hnumbers := map_eq_of_withoutOld hlooks.kept Record.fileNumber_withoutOld
  simp only [List.isEmpty_map, keptRecords] at hempty
  simp only [keptRecords] at htexts hnumbers
  simp only [rebuild?, hempty, htexts, hnumbers]

theorem textualBlock_eq (hlooks : LooksLike first second) (maxChars maxLines : Int) :
    textualBlock first.records maxChars maxLines = textualBlock second.records maxChars maxLines := by
  have hreverse :
      first.added.reverse.map Record.withoutOld = second.added.reverse.map Record.withoutOld := by
    rw [List.map_reverse, List.map_reverse, hlooks.added]
  have hempty := hlooks.isEmpty_added_eq
  have htexts := map_eq_of_withoutOld hlooks.added Record.addedText_withoutOld
  have hfirst := firstNumber_eq_of_withoutOld hlooks.added
  have hlast := firstNumber_eq_of_withoutOld hreverse
  simp only [FileDiff.added, FileDiff.ofKind] at hempty htexts hfirst hlast
  simp only [textualBlock, hempty, htexts, hfirst, hlast]

theorem textual_eq (hlooks : LooksLike first second) (settings : Settings)
    (warnings : List Report) :
    Extraction.textual first settings warnings = Extraction.textual second settings warnings := by
  rw [Extraction.textual, Extraction.textual, hlooks.textualBlock_eq]

theorem extractFromSource_eq (hlooks : LooksLike first second) (settings : Settings)
    (parser : Parser) (source : Source.Rebuilt) :
    extractFromSource first settings parser source =
      extractFromSource second settings parser source := by
  simp only [extractFromSource, extractFromUnits, hlooks.path, hlooks.changedNumbers_eq,
    hlooks.textual_eq]

theorem extractBlocks_eq (hlooks : LooksLike first second) (settings : Settings)
    (parser : Parser) :
    extractBlocks first settings parser = extractBlocks second settings parser := by
  simp only [extractBlocks, hlooks.path, hlooks.isEmpty_added_eq, hlooks.rebuild?_eq,
    hlooks.textual_eq, hlooks.extractFromSource_eq]

theorem parsedSource?_eq (hlooks : LooksLike first second) (settings : Settings) :
    parsedSource? first settings = parsedSource? second settings := by
  rw [parsedSource?, parsedSource?, hlooks.path, hlooks.isEmpty_added_eq, hlooks.rebuild?_eq]

theorem hasUnwritableGap_eq (hlooks : LooksLike first second) (settings : Settings)
    (parser : Parser) (source : Source.Rebuilt) :
    hasUnwritableGap first settings parser source =
      hasUnwritableGap second settings parser source := by
  rw [hasUnwritableGap, hasUnwritableGap, hlooks.path, hlooks.changedNumbers_eq]

theorem tryExtractBlocks_eq (hlooks : LooksLike first second) (settings : Settings)
    (parser : Parser) :
    tryExtractBlocks first settings parser = tryExtractBlocks second settings parser := by
  simp only [tryExtractBlocks, hlooks.extractBlocks_eq, hlooks.parsedSource?_eq,
    hlooks.hasUnwritableGap_eq]

end LooksLike

/-- Diffs that differ in old numbers and in passed over records alone have the same extraction. -/
theorem extraction_eq_of_newSide_eq {firstText secondText path : String}
    {firstOld secondOld : Option String} {first second : FileDiff}
    (hfirst : FileDiff.read firstText path firstOld = .ok first)
    (hsecond : FileDiff.read secondText path secondOld = .ok second)
    (hside : first.newSide = second.newSide)
    (settings : Settings) (parser : Parser) :
    tryExtractBlocks first settings parser = tryExtractBlocks second settings parser := by
  have hlooks : LooksLike first second := looksLike_of_newSide_eq hfirst hsecond hside
  exact hlooks.tryExtractBlocks_eq settings parser

/-! The sign edit, once as a whole and once as a file that only gains lines. -/

namespace SignEdit

def insertions : String :=
  "+++ b/sign.py\n@@ -7 +1,4 @@\n \n@@ -9 +1 @@ fn\n def sign():\n+\n+    new()\n+sign()\n"

def insertionsDiff : FileDiff :=
  ⟨"sign.py", some "old.py", Diff.Cursor.start.run (Diff.diffRows insertions),
    [⟨7, 0, 1, 4⟩, ⟨9, 0, 1, 0⟩]⟩

end SignEdit

theorem signEdit_extraction_eq :
    tryExtractBlocks SignEdit.insertionsDiff .initial SignEdit.parser =
        tryExtractBlocks SignEdit.diff .initial SignEdit.parser ∧
      SignEdit.insertionsDiff.records ≠ SignEdit.diff.records := by
  have hread :
      FileDiff.read SignEdit.insertions "sign.py" (some "old.py") = .ok SignEdit.insertionsDiff := by
    decide +kernel
  have hside : SignEdit.insertionsDiff.newSide = SignEdit.diff.newSide := by
    decide +kernel
  constructor
  · exact extraction_eq_of_newSide_eq hread SignEdit.read_text hside .initial SignEdit.parser
  · decide +kernel

end ReviewContext

import Mathlib.Data.List.Forall2
import ReviewContext.Proofs.Diff.Patch
import ReviewContext.Proofs.Diff.Run

/-!
# Reading a written patch

Inside a hunk the cursor stands on the next line of each file, and the announced lines that it has
left are the lines still to come. They run out together with the hunk, so three signs in a row mark
a line of the file there and metadata outside. Every row of a patch is therefore read as what it
was written for, and every number leads to the line that it stands for.
-/

namespace ReviewContext.Diff

open ReviewContext.Text

/-- The content behind its first character. -/
def Record.tailText (record : Record) : String :=
  String.ofList (record.content.toList.drop 1)

/-- A number of a record on one side is the number of the line that the record shows. -/
def Record.ShowsLine (record : Record) (number : Option Int) (file : List FileLine) : Prop :=
  ∀ n, number = some n →
    ∃ (index : Nat) (line : FileLine),
      n = index + 1 ∧ file[index]? = some line ∧ record.tailText = line.text

/-- The record of a row that belongs to neither file. -/
def Record.IsForeign (record : Record) (text : String) : Prop :=
  record.content = dropCarriageReturns text ∧ record.isHeader = false ∧
    record.isUnlabeled = true

namespace PatchRow

/-- What reading makes of a row of a patch. -/
def Gives : PatchRow → Record → Prop
  | metadata row, record => record.IsForeign row.text
  | header marks _, record =>
    record.isHeader = true ∧ record.kind = .context ∧
      record.oldNumber = some (marks.oldStart : Int) ∧
      record.newNumber = some (marks.newStart : Int)
  | line edit, record =>
    record.content = edit.row ∧ record.isHeader = false ∧ record.kind = edit.kind ∧
      record.oldNumber.isSome = edit.old?.isSome ∧ record.newNumber.isSome = edit.new?.isSome
  | remark row, record => record.IsForeign row.text

/-- A row is read as what it stands for, and its numbers are right. -/
def IsReadAs (old new : List FileLine) (row : PatchRow) (record : Record) : Prop :=
  row.Gives record ∧
    (record.isHeader = false →
      record.ShowsLine record.oldNumber old ∧ record.ShowsLine record.newNumber new)

def readText (row : PatchRow) : String :=
  dropCarriageReturns row.text

end PatchRow

/-! ## Rows of edits -/

namespace Edit

variable (edit : Edit)

theorem toList_row : edit.row.toList = edit.kind.sign :: edit.line.text.toList := by
  rw [row, String.toList_ofList]

theorem header?_row : header? edit.row = none := by
  apply header?_eq_none
  rw [toList_row]
  rintro ⟨rest, hrest⟩
  cases edit <;> simp [kind, Kind.sign] at hrest

theorem isHeader_row : isHeader edit.row = false := by
  rw [isHeader_eq_isSome, header?_row, Option.isSome_none]

theorem dropCarriageReturns_row : dropCarriageReturns edit.row = edit.row := by
  apply dropCarriageReturns_of_getLast?
  rw [toList_row, List.getLast?_cons]
  cases hlast : edit.line.text.toList.getLast? with
  | none => cases edit <;> simp [kind, Kind.sign]
  | some c =>
    have hc := edit.line.noReturn
    rw [hlast] at hc
    simpa using hc

theorem feed_notMem_row : '\n' ∉ edit.row.toList := by
  have hsign : '\n' ≠ edit.kind.sign := by
    cases edit <;> simp [kind, Kind.sign]
  rw [toList_row]
  simp [hsign, edit.line.noFeed]

theorem row_ne_empty : edit.row ≠ "" := by
  intro h
  have hlist := congrArg String.toList h
  simp [toList_row] at hlist

end Edit

namespace Cursor

theorem step_kept (cursor : Cursor) (line : FileLine) :
    cursor.step (Edit.kept line).row =
      (⟨(Edit.kept line).row, .context, some cursor.oldLine, some cursor.newLine,
        cursor.newLine⟩, cursor.passOld.passNew) := by
  have hlist := Edit.toList_row (.kept line)
  apply Takes.eq_step
  refine .unchanged (Edit.header?_row _) ?_ ?_ ?_
  · simp [isLineOf, hlist, Edit.kind, Kind.sign]
  · simp [isLineOf, hlist, Edit.kind, Kind.sign]
  · simp [isUnchanged, hlist, Edit.kind, Kind.sign]

theorem step_removed {cursor : Cursor} (hleft : 0 < cursor.oldLeft) (line : FileLine) :
    cursor.step (Edit.removed line).row =
      (⟨(Edit.removed line).row, .removed, some cursor.oldLine, none, cursor.oldLine⟩,
        cursor.passOld) := by
  have hlist := Edit.toList_row (.removed line)
  apply Takes.eq_step
  refine .removed (Edit.header?_row _) ?_ ?_
  · simp [isLineOf, hlist, Edit.kind, Kind.sign]
  · simp [isLineOf, hlist, Edit.kind, Kind.sign, hleft]

theorem step_inserted {cursor : Cursor} (hleft : 0 < cursor.newLeft) (line : FileLine) :
    cursor.step (Edit.inserted line).row =
      (⟨(Edit.inserted line).row, .added, none, some cursor.newLine, cursor.newLine⟩,
        cursor.passNew) := by
  have hlist := Edit.toList_row (.inserted line)
  apply Takes.eq_step
  refine .added (Edit.header?_row _) ?_
  simp [isLineOf, hlist, Edit.kind, Kind.sign, hleft]

end Cursor

/-! ## Rows of metadata -/

theorem isPrefix_dropCarriageReturns {marks : List Char} {row : String}
    (hmarks : marks.getLast? ≠ some '\r')
    (hrow : marks <+: row.toList) :
    marks <+: (dropCarriageReturns row).toList := by
  obtain ⟨tail, htail⟩ := hrow
  have hofList : row = String.ofList (marks ++ tail) := by
    rw [htail, String.ofList_toList]
  rw [hofList, toList_dropCarriageReturns_append hmarks tail]
  exact List.prefix_append _ _

theorem not_isPrefix_dropCarriageReturns {marks : List Char} {row : String}
    (hrow : ¬ marks <+: row.toList) :
    ¬ marks <+: (dropCarriageReturns row).toList :=
  fun h => hrow (h.trans (dropCarriageReturns_isPrefix row))

theorem not_isPrefix_of_head {a c : Char} {chars rest : List Char}
    (hhead : [a] <+: chars)
    (hne : c ≠ a) :
    ¬ (c :: rest) <+: chars := by
  rintro ⟨tail, rfl⟩
  obtain ⟨other, hother⟩ := hhead
  exact hne (List.cons.inj hother).1.symm

namespace Cursor

theorem isLineOf_eq_false {sign : Char} {left : Nat} {row : String}
    (hrow : ¬ [sign] <+: row.toList) :
    isLineOf sign left row = false := by
  have hprefix : [sign].isPrefixOf row.toList = false := by
    rw [← Bool.not_eq_true, List.isPrefixOf_iff_prefix]
    exact hrow
  rw [isLineOf, hprefix, Bool.false_and]

/-- Three signs mark no line once the announced lines have run out. -/
theorem isLineOf_zero_eq_false {sign : Char} {row : String}
    (hrow : [sign, sign, sign] <+: row.toList) :
    isLineOf sign 0 row = false := by
  have hprefix : [sign, sign, sign].isPrefixOf row.toList = true :=
    List.isPrefixOf_iff_prefix.mpr hrow
  simp [isLineOf, hprefix]

theorem isUnchanged_eq_false {row : String}
    (hblank : ¬ [' '] <+: row.toList)
    (hne : row ≠ "") :
    isUnchanged row = false := by
  have hprefix : [' '].isPrefixOf row.toList = false := by
    rw [← Bool.not_eq_true, List.isPrefixOf_iff_prefix]
    exact hblank
  simp [isUnchanged, hprefix, hne]

end Cursor

/-- A row that begins like no line of a file is read as belonging to neither, and the cursor stays
where it is. -/
theorem isForeign_step {cursor : Cursor} {text : String}
    (hheader : ¬ ['@', '@'] <+: (dropCarriageReturns text).toList)
    (hadded : Cursor.isLineOf '+' cursor.newLeft (dropCarriageReturns text) = false)
    (hremoved : Cursor.isLineOf '-' cursor.oldLeft (dropCarriageReturns text) = false)
    (hunchanged : Cursor.isUnchanged (dropCarriageReturns text) = false) :
    (cursor.step (dropCarriageReturns text)).1.IsForeign text ∧
      (cursor.step (dropCarriageReturns text)).2 = cursor := by
  have hnone := header?_eq_none hheader
  have hno : isHeader (dropCarriageReturns text) = false := by
    rw [isHeader_eq_isSome, hnone, Option.isSome_none]
  rw [(Cursor.Takes.foreign hnone hadded hremoved hunchanged).eq_step]
  exact ⟨⟨rfl, hno, rfl⟩, rfl⟩

theorem isForeign_step_metadata {cursor : Cursor}
    (holdLeft : cursor.oldLeft = 0)
    (hnewLeft : cursor.newLeft = 0)
    (row : Metadata) :
    (cursor.step (dropCarriageReturns row.text)).1.IsForeign row.text ∧
      (cursor.step (dropCarriageReturns row.text)).2 = cursor := by
  rcases row.foreign with hminus | hplus | ⟨hheader, hblank, hplus, hminus⟩
  · have hshown := isPrefix_dropCarriageReturns (by decide) hminus
    have hhead := (List.prefix_append ['-'] ['-', '-']).trans hshown
    apply isForeign_step
    · exact not_isPrefix_of_head hhead (by decide)
    · exact Cursor.isLineOf_eq_false (not_isPrefix_of_head hhead (by decide))
    · rw [holdLeft]
      exact Cursor.isLineOf_zero_eq_false hshown
    · exact Cursor.isUnchanged_eq_false (not_isPrefix_of_head hhead (by decide)) row.visible
  · have hshown := isPrefix_dropCarriageReturns (by decide) hplus
    have hhead := (List.prefix_append ['+'] ['+', '+']).trans hshown
    apply isForeign_step
    · exact not_isPrefix_of_head hhead (by decide)
    · rw [hnewLeft]
      exact Cursor.isLineOf_zero_eq_false hshown
    · exact Cursor.isLineOf_eq_false (not_isPrefix_of_head hhead (by decide))
    · exact Cursor.isUnchanged_eq_false (not_isPrefix_of_head hhead (by decide)) row.visible
  · apply isForeign_step
    · exact not_isPrefix_dropCarriageReturns hheader
    · exact Cursor.isLineOf_eq_false (not_isPrefix_dropCarriageReturns hplus)
    · exact Cursor.isLineOf_eq_false (not_isPrefix_dropCarriageReturns hminus)
    · exact Cursor.isUnchanged_eq_false (not_isPrefix_dropCarriageReturns hblank) row.visible

theorem isForeign_step_remark (cursor : Cursor) (row : Remark) :
    (cursor.step (dropCarriageReturns row.text)).1.IsForeign row.text ∧
      (cursor.step (dropCarriageReturns row.text)).2 = cursor := by
  have hhead := isPrefix_dropCarriageReturns (by decide) row.backslash
  apply isForeign_step
  · exact not_isPrefix_of_head hhead (by decide)
  · exact Cursor.isLineOf_eq_false (not_isPrefix_of_head hhead (by decide))
  · exact Cursor.isLineOf_eq_false (not_isPrefix_of_head hhead (by decide))
  · refine Cursor.isUnchanged_eq_false (not_isPrefix_of_head hhead (by decide)) ?_
    intro hempty
    simp [hempty] at hhead

/-! ## Runs over a hunk -/

/-- A line number and a count of announced lines fit the lines of a file that are still to come in
a hunk. -/
structure Faces (number left : Nat) (file lines : List FileLine) : Prop where
  left_eq : left = lines.length
  place : ∃ before after,
    file = before ++ lines ++ after ∧ (lines ≠ [] → number = before.length + 1)

namespace Faces

variable {number left : Nat} {file rest : List FileLine} {line : FileLine}

theorem left_pos (hfaces : Faces number left file (line :: rest)) : 0 < left := by
  rw [hfaces.left_eq]
  simp

theorem next (hfaces : Faces number left file (line :: rest)) :
    Faces (number + 1) (left - 1) file rest := by
  obtain ⟨before, after, hfile, hnumber⟩ := hfaces.place
  have hnumber := hnumber (by simp)
  refine ⟨by simp [hfaces.left_eq], before ++ [line], after, by simp [hfile], ?_⟩
  intro _
  simp [hnumber]

theorem showsLine (hfaces : Faces number left file (line :: rest)) {record : Record}
    (htail : record.tailText = line.text) :
    record.ShowsLine (some (number : Int)) file := by
  obtain ⟨before, after, hfile, hnumber⟩ := hfaces.place
  have hnumber := hnumber (by simp)
  rintro _ ⟨rfl⟩
  refine ⟨before.length, line, by omega, ?_, htail⟩
  simp [hfile]

end Faces

/-- The cursor stands in front of the rest of a hunk. -/
structure Cursor.StandsAt (cursor : Cursor) (old new : List FileLine) (edits : List Edit) :
    Prop where
  old : Faces cursor.oldLine cursor.oldLeft old (oldLines edits)
  new : Faces cursor.newLine cursor.newLeft new (newLines edits)

theorem Record.showsLine_none (record : Record) (file : List FileLine) :
    record.ShowsLine none file := by
  intro n hn
  cases hn

theorem Edit.tailText_of_content {edit : Edit} {record : Record}
    (hcontent : record.content = edit.row) :
    record.tailText = edit.line.text := by
  rw [Record.tailText, hcontent, Edit.toList_row, List.drop_one, List.tail_cons,
    String.ofList_toList]

theorem isReadAs_edit {cursor : Cursor} {old new : List FileLine} {edit : Edit} {rest : List Edit}
    (hstands : cursor.StandsAt old new (edit :: rest)) :
    (PatchRow.line edit).IsReadAs old new (cursor.step edit.row).1 ∧
      (cursor.step edit.row).2.StandsAt old new rest := by
  have hheader := edit.isHeader_row
  have htail (record : Record) (hcontent : record.content = edit.row) :
      record.tailText = edit.line.text :=
    Edit.tailText_of_content hcontent
  cases edit with
  | kept line =>
    have hold : Faces cursor.oldLine cursor.oldLeft old (line :: oldLines rest) := hstands.old
    have hnew : Faces cursor.newLine cursor.newLeft new (line :: newLines rest) := hstands.new
    rw [Cursor.step_kept]
    refine ⟨⟨⟨rfl, hheader, rfl, rfl, rfl⟩, fun _ => ⟨?_, ?_⟩⟩, hold.next, hnew.next⟩
    · exact hold.showsLine (htail _ rfl)
    · exact hnew.showsLine (htail _ rfl)
  | removed line =>
    have hold : Faces cursor.oldLine cursor.oldLeft old (line :: oldLines rest) := hstands.old
    have hnew : Faces cursor.newLine cursor.newLeft new (newLines rest) := hstands.new
    rw [Cursor.step_removed hold.left_pos]
    refine ⟨⟨⟨rfl, hheader, rfl, rfl, rfl⟩, fun _ => ⟨?_, ?_⟩⟩, hold.next, hnew⟩
    · exact hold.showsLine (htail _ rfl)
    · exact Record.showsLine_none _ _
  | inserted line =>
    have hold : Faces cursor.oldLine cursor.oldLeft old (oldLines rest) := hstands.old
    have hnew : Faces cursor.newLine cursor.newLeft new (line :: newLines rest) := hstands.new
    rw [Cursor.step_inserted hnew.left_pos]
    refine ⟨⟨⟨rfl, hheader, rfl, rfl, rfl⟩, fun _ => ⟨?_, ?_⟩⟩, hold, hnew.next⟩
    · exact Record.showsLine_none _ _
    · exact hnew.showsLine (htail _ rfl)

theorem Record.IsForeign.showsLine {record : Record} {text : String}
    (hforeign : record.IsForeign text) (old new : List FileLine) :
    record.ShowsLine record.oldNumber old ∧ record.ShowsLine record.newNumber new := by
  have hunlabeled := hforeign.2.2
  simp only [Record.isUnlabeled, Bool.and_eq_true, Option.isNone_iff_eq_none] at hunlabeled
  rw [hunlabeled.1.1, hunlabeled.1.2]
  exact ⟨record.showsLine_none old, record.showsLine_none new⟩

/-- The rows of a hunk behind its header are read as what they stand for, and nothing that the
header announced is left behind them. -/
theorem isReadAs_body {cursor : Cursor} {old new : List FileLine} (body : List HunkRow)
    (hstands : cursor.StandsAt old new (body.filterMap HunkRow.edit?)) :
    let texts := (body.map HunkRow.patchRow).map PatchRow.readText
    List.Forall₂ (PatchRow.IsReadAs old new) (body.map HunkRow.patchRow) (cursor.run texts) ∧
      (cursor.passAll texts).StandsAt old new [] := by
  induction body generalizing cursor with
  | nil => exact ⟨.nil, hstands⟩
  | cons row rest ih =>
    simp only [List.map_cons, Cursor.run, Cursor.passAll]
    cases row with
    | line edit =>
      have hedit : cursor.StandsAt old new (edit :: rest.filterMap HunkRow.edit?) := hstands
      obtain ⟨hread, hnext⟩ := isReadAs_edit hedit
      have htext : (HunkRow.line edit).patchRow.readText = edit.row :=
        edit.dropCarriageReturns_row
      rw [htext]
      exact ⟨.cons hread (ih hnext).1, (ih hnext).2⟩
    | remark row =>
      obtain ⟨hforeign, hsame⟩ := isForeign_step_remark cursor row
      have htext : (HunkRow.remark row).patchRow.readText = dropCarriageReturns row.text := rfl
      rw [htext, hsame]
      have hread : (PatchRow.remark row).IsReadAs old new _ :=
        ⟨hforeign, fun _ => hforeign.showsLine old new⟩
      exact ⟨.cons hread (ih hstands).1, (ih hstands).2⟩

/-! ## Runs over a patch -/

theorem isReadAs_metadata {cursor : Cursor}
    (holdLeft : cursor.oldLeft = 0)
    (hnewLeft : cursor.newLeft = 0)
    (old new : List FileLine) (rows : List Metadata) :
    let texts := (rows.map PatchRow.metadata).map PatchRow.readText
    List.Forall₂ (PatchRow.IsReadAs old new) (rows.map PatchRow.metadata) (cursor.run texts) ∧
      cursor.passAll texts = cursor := by
  induction rows with
  | nil => exact ⟨.nil, rfl⟩
  | cons row rest ih =>
    obtain ⟨hforeign, hsame⟩ := isForeign_step_metadata holdLeft hnewLeft row
    have htext : (PatchRow.metadata row).readText = dropCarriageReturns row.text := rfl
    simp only [List.map_cons, Cursor.run, Cursor.passAll]
    rw [htext, hsame]
    have hread : (PatchRow.metadata row).IsReadAs old new _ :=
      ⟨hforeign, fun _ => hforeign.showsLine old new⟩
    exact ⟨.cons hread ih.1, ih.2⟩

theorem isReadAs_header (cursor : Cursor) (old new : List FileLine) (marks : Header)
    (heading : RowText) :
    (PatchRow.header marks heading).IsReadAs old new
        (cursor.step (PatchRow.header marks heading).readText).1 ∧
      (cursor.step (PatchRow.header marks heading).readText).2 = Cursor.atHeader marks := by
  have htext :
      (PatchRow.header marks heading).readText = marks.row (dropCarriageReturns heading.text) :=
    marks.dropCarriageReturns_row heading.text
  have hheader := marks.header?_row (dropCarriageReturns heading.text)
  have hyes : isHeader (marks.row (dropCarriageReturns heading.text)) = true := by
    rw [isHeader_eq_isSome, hheader, Option.isSome_some]
  rw [htext, (Cursor.Takes.header marks hheader).eq_step]
  refine ⟨⟨⟨hyes, rfl, rfl, rfl⟩, fun hno => ?_⟩, rfl⟩
  exact absurd (hyes.symm.trans hno) (by decide)

theorem filterMap_map_kept {side : Edit → Option FileLine}
    (hkept : ∀ line, side (.kept line) = some line) (lines : List FileLine) :
    (lines.map Edit.kept).filterMap side = lines := by
  rw [List.filterMap_map]
  have hside : side ∘ Edit.kept = some := by
    funext line
    exact hkept line
  rw [hside, List.filterMap_some]

namespace Patch

variable {patch : Patch} {before after : List Hunk} {hunk : Hunk}

/-- One side of a patch: what is in front of a hunk, its lines, and what is behind it. -/
theorem filterMap_script {side : Edit → Option FileLine}
    (hkept : ∀ line, side (.kept line) = some line)
    (hsplit : patch.hunks = before ++ hunk :: after) :
    patch.script.filterMap side =
      ((scriptOf before).filterMap side ++ hunk.skipped) ++ hunk.edits.filterMap side ++
        ((scriptOf after).filterMap side ++ patch.rest) := by
  have hscript :
      patch.script =
        scriptOf before ++ hunk.skipped.map .kept ++ hunk.edits ++
          (scriptOf after ++ patch.rest.map .kept) := by
    simp [script, hsplit, scriptOf, Hunk.script]
  rw [hscript]
  simp only [List.filterMap_append, filterMap_map_kept hkept]

/-- True starts put the cursor behind a header in front of the lines of its hunk. -/
theorem HasTrueStarts.standsAt (hstarts : patch.HasTrueStarts)
    (hsplit : patch.hunks = before ++ hunk :: after) :
    (Cursor.atHeader hunk.header).StandsAt patch.oldFile patch.newFile hunk.edits := by
  constructor
  · refine ⟨rfl, _, _, filterMap_script (fun _ => rfl) hsplit, fun hlines => ?_⟩
    rw [List.length_append]
    exact hstarts.old before hunk after hsplit (List.length_pos_iff.mpr hlines)
  · refine ⟨rfl, _, _, filterMap_script (fun _ => rfl) hsplit, fun hlines => ?_⟩
    rw [List.length_append]
    exact hstarts.new before hunk after hsplit (List.length_pos_iff.mpr hlines)

end Patch

/-- The hunks from some point on, read by a cursor without announced lines left. -/
theorem isReadAs_hunks {patch : Patch} (hstarts : patch.HasTrueStarts)
    (hunks before : List Hunk) (hsplit : patch.hunks = before ++ hunks)
    (cursor : Cursor) (holdLeft : cursor.oldLeft = 0) (hnewLeft : cursor.newLeft = 0) :
    let rows := hunks.flatMap Hunk.rows ++ patch.trailer.map .metadata
    List.Forall₂ (PatchRow.IsReadAs patch.oldFile patch.newFile) rows
      (cursor.run (rows.map PatchRow.readText)) := by
  induction hunks generalizing before cursor with
  | nil => exact (isReadAs_metadata holdLeft hnewLeft _ _ patch.trailer).1
  | cons hunk rest ih =>
    obtain ⟨hpreface, hsame⟩ :=
      isReadAs_metadata holdLeft hnewLeft patch.oldFile patch.newFile hunk.preface
    obtain ⟨hheader, hnext⟩ :=
      isReadAs_header cursor patch.oldFile patch.newFile hunk.header hunk.heading
    obtain ⟨hbody, hend⟩ := isReadAs_body hunk.body (hstarts.standsAt hsplit)
    have hsplit' : patch.hunks = (before ++ [hunk]) ++ rest := by simpa using hsplit
    have hrest := ih (before ++ [hunk]) hsplit' _ hend.old.left_eq hend.new.left_eq
    intro rows
    have hrows :
        rows =
          hunk.preface.map .metadata ++
            (.header hunk.header hunk.heading :: hunk.body.map HunkRow.patchRow) ++
              (rest.flatMap Hunk.rows ++ patch.trailer.map .metadata) := by
      simp [rows, Hunk.rows]
    rw [hrows, List.map_append, List.map_append, List.map_cons, Cursor.run_append,
      Cursor.run_append, Cursor.passAll_append, hsame, Cursor.run, Cursor.passAll, hnext]
    exact List.rel_append (List.rel_append hpreface (.cons hheader hbody)) hrest

theorem feed_notMem_text (row : PatchRow) : '\n' ∉ row.text.toList := by
  cases row with
  | metadata row => exact row.noFeed
  | header marks heading => exact marks.feed_notMem_row heading.noFeed
  | line edit => exact edit.feed_notMem_row
  | remark row => exact row.noFeed

theorem text_ne_empty (row : PatchRow) : row.text ≠ "" := by
  cases row with
  | metadata row =>
    intro hempty
    have hvisible := row.visible
    rw [show row.text = "" from hempty] at hvisible
    exact hvisible (by decide)
  | header marks heading =>
    intro hempty
    have hlist := congrArg String.toList hempty
    simp [PatchRow.text, Header.row, HeaderDigits.chars] at hlist
  | line edit => exact edit.row_ne_empty
  | remark row =>
    intro hempty
    have hbackslash := row.backslash
    rw [show row.text = "" from hempty] at hbackslash
    exact absurd hbackslash (by decide)

theorem Patch.diffRows_eq {patch : Patch} {text : String} (hwritten : patch.IsWrittenAs text) :
    diffRows text = patch.rows.map PatchRow.readText := by
  have hfree : ∀ part ∈ patch.rows.map PatchRow.text, '\n' ∉ part.toList := by
    intro part hpart
    obtain ⟨row, -, rfl⟩ := List.mem_map.mp hpart
    exact feed_notMem_text row
  have hlast : (patch.rows.map PatchRow.text).getLast? ≠ some "" := by
    intro h
    obtain ⟨row, -, hrow⟩ := List.mem_map.mp (List.mem_of_getLast? h)
    exact text_ne_empty row hrow
  rcases hwritten with rfl | rfl
  · rw [diffRows_joinRows hfree hlast, List.map_map]
    rfl
  · rw [diffRows_terminated hfree, List.map_map]
    rfl

theorem exists_of_forall₂_of_mem {α β : Type} {R : α → β → Prop} {xs : List α} {ys : List β}
    (hall : List.Forall₂ R xs ys) {y : β} (hy : y ∈ ys) :
    ∃ x ∈ xs, R x y := by
  induction hall with
  | nil => cases hy
  | cons hxy _ ih =>
    rcases List.mem_cons.mp hy with rfl | hrest
    · exact ⟨_, List.mem_cons_self, hxy⟩
    · obtain ⟨x, hx, hxy⟩ := ih hrest
      exact ⟨x, List.mem_cons_of_mem _ hx, hxy⟩

theorem header?_eq_none_of_isForeign {record : Record} {text : String}
    (hforeign : record.IsForeign text) :
    header? (dropCarriageReturns text) = none := by
  obtain ⟨hcontent, hheader, -⟩ := hforeign
  rw [Record.isHeader, hcontent, isHeader_eq_isSome] at hheader
  simpa using hheader

theorem Patch.exists_hunk_of_header {patch : Patch} {marks : Header} {heading : RowText}
    (hrow : .header marks heading ∈ patch.rows) :
    ∃ hunk ∈ patch.hunks, hunk.header = marks := by
  rcases List.mem_append.mp hrow with hhunks | htrailer
  · obtain ⟨hunk, hhunk, hmem⟩ := List.mem_flatMap.mp hhunks
    refine ⟨hunk, hhunk, ?_⟩
    rcases List.mem_append.mp hmem with hpreface | hrest
    · simp at hpreface
    · rcases List.mem_cons.mp hrest with hheader | hbody
      · cases hheader
        rfl
      · obtain ⟨row, -, hrow⟩ := List.mem_map.mp hbody
        cases row <;> cases hrow
  · simp at htrailer

theorem Patch.headerFault?_readText {patch : Patch} (hheaders : patch.HasWritableHeaders)
    {row : PatchRow} (hrow : row ∈ patch.rows) :
    headerFault? row.readText = none := by
  cases row with
  | metadata row =>
    have hforeign := (@isForeign_step_metadata Cursor.start rfl rfl row).1
    exact headerFault?_eq_none_of_header? (header?_eq_none_of_isForeign hforeign)
  | header marks heading =>
    obtain ⟨hunk, hhunk, rfl⟩ := Patch.exists_hunk_of_header hrow
    rw [PatchRow.readText, PatchRow.text, Header.dropCarriageReturns_row]
    exact Header.headerFault?_row (hheaders hunk hhunk) _
  | line edit =>
    rw [PatchRow.readText, PatchRow.text, edit.dropCarriageReturns_row]
    exact headerFault?_eq_none_of_header? edit.header?_row
  | remark row =>
    have hforeign := (isForeign_step_remark Cursor.start row).1
    exact headerFault?_eq_none_of_header? (header?_eq_none_of_isForeign hforeign)

/-- A written patch is read back: every row is read as what it was written for, and every number
of a record leads to the line that the record shows. -/
theorem read_writtenPatch
    {patch : Patch} {text : String}
    (hstarts : patch.HasTrueStarts)
    (hheaders : patch.HasWritableHeaders)
    (hwritten : patch.IsWrittenAs text)
    (path : String) (oldPath : Option String) :
    ∃ diff,
      FileDiff.read text path oldPath = .ok diff ∧
        List.Forall₂ PatchRow.Gives patch.rows diff.records ∧
          ∀ record ∈ diff.records, record.isHeader = false →
            record.ShowsLine record.oldNumber patch.oldFile ∧
              record.ShowsLine record.newNumber patch.newFile := by
  have hrows := patch.diffRows_eq hwritten
  have hfault : ∀ row ∈ diffRows text, headerFault? row = none := by
    intro row hrow
    rw [hrows] at hrow
    obtain ⟨patchRow, hmem, rfl⟩ := List.mem_map.mp hrow
    exact Patch.headerFault?_readText hheaders hmem
  have hreads : List.Forall₂ (PatchRow.IsReadAs patch.oldFile patch.newFile) patch.rows
      (Cursor.start.run (diffRows text)) := by
    rw [hrows]
    exact isReadAs_hunks hstarts patch.hunks [] rfl Cursor.start rfl rfl
  refine ⟨_, FileDiff.read_eq_ok hfault, hreads.imp fun _ _ hread => hread.1, ?_⟩
  intro record hrecord hheader
  obtain ⟨row, -, hread⟩ := exists_of_forall₂_of_mem hreads hrecord
  exact hread.2 hheader

/-- Lines that begin like signs, like headers, and not at all. -/
def signPatch : Patch where
  hunks :=
    [{ skipped := []
       preface :=
        [⟨⟨"--- a/q.sql", by decide⟩, by decide, by decide⟩,
          ⟨⟨"+++ b/q.sql", by decide⟩, by decide, by decide⟩]
       oldStart := 1
       newStart := 1
       heading := ⟨"", by decide⟩
       body :=
        [.line (.removed ⟨⟨"-- a", by decide⟩, by decide⟩),
          .line (.inserted ⟨⟨"++ b", by decide⟩, by decide⟩),
          .line (.kept ⟨⟨"", by decide⟩, by decide⟩)] },
     { skipped := [⟨⟨"c", by decide⟩, by decide⟩]
       preface := [⟨⟨"--- d", by decide⟩, by decide, by decide⟩]
       oldStart := 4
       newStart := 4
       heading := ⟨" e", by decide⟩
       body :=
        [.line (.kept ⟨⟨"@@ -1 +1 @@", by decide⟩, by decide⟩),
          .line (.inserted ⟨⟨"", by decide⟩, by decide⟩),
          .remark ⟨⟨"\\ f", by decide⟩, by decide⟩] }]
  rest := []
  trailer := []

theorem signPatch_hasTrueStarts : signPatch.HasTrueStarts := by
  constructor
  · intro before hunk after hsplit hcount
    rcases before with _ | ⟨first, _ | ⟨second, before⟩⟩
    · cases hsplit
      rfl
    · cases hsplit
      rfl
    · simp [signPatch] at hsplit
  · intro before hunk after hsplit hcount
    rcases before with _ | ⟨first, _ | ⟨second, before⟩⟩
    · cases hsplit
      rfl
    · cases hsplit
      rfl
    · simp [signPatch] at hsplit

def signText : String :=
  "--- a/q.sql\n+++ b/q.sql\n@@ -1,2 +1,2 @@\n--- a\n+++ b\n \n--- d\n@@ -4,1 +4,2 @@ e\n" ++
    " @@ -1 +1 @@\n+\n\\ f\n"

theorem read_signPatch :
    signPatch.HasTrueStarts ∧ signPatch.HasWritableHeaders ∧ signPatch.IsWrittenAs signText ∧
      ∃ diff,
        FileDiff.read signText "q.sql" none = .ok diff ∧
          List.Forall₂ PatchRow.Gives signPatch.rows diff.records ∧
            ∀ record ∈ diff.records, record.isHeader = false →
              record.ShowsLine record.oldNumber signPatch.oldFile ∧
                record.ShowsLine record.newNumber signPatch.newFile := by
  have hheaders : signPatch.HasWritableHeaders := by
    intro hunk hhunk
    simp only [signPatch, List.mem_cons, List.not_mem_nil, or_false] at hhunk
    rcases hhunk with rfl | rfl
    · decide
    · decide
  have hwritten : signPatch.IsWrittenAs signText := .inr (by decide)
  exact ⟨signPatch_hasTrueStarts, hheaders, hwritten,
    read_writtenPatch signPatch_hasTrueStarts hheaders hwritten "q.sql" none⟩

end ReviewContext.Diff

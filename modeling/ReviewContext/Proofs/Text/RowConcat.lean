import Mathlib.Data.List.DropRight
import ReviewContext.Proofs.Text.RowSplit

/-!
# Rows of texts put together

When one text is put behind another, the last row of the first and the first row of the second
become one row, and all other rows stay as they are. A stretch of a text therefore begins on the row
whose number is the number of line feeds in front of it. This holds whatever the characters of a
text are, as long as one of them is the line feed.
-/

namespace ReviewContext.Text

section Rows

variable {α : Type} [DecidableEq α] {feed : α}

/-- The characters in front of the first line feed. -/
def firstRow (feed : α) (chars : List α) : List α :=
  chars.takeWhile fun c => c != feed

/-- The characters behind the last line feed. -/
def lastRow (feed : α) (chars : List α) : List α :=
  chars.rtakeWhile fun c => c != feed

theorem splitOn_feed_cons (rest : List α) :
    (feed :: rest).splitOn feed = [] :: rest.splitOn feed := by
  simp [List.splitOn_cons_eq_if_modifyHead]

theorem splitOn_cons_of_ne {c : α} (hc : c ≠ feed) (rest : List α) :
    (c :: rest).splitOn feed = (rest.splitOn feed).modifyHead (List.cons c) := by
  simp [List.splitOn_cons_eq_if_modifyHead, hc]

theorem length_splitOn_feed (chars : List α) :
    (chars.splitOn feed).length = chars.count feed + 1 := by
  induction chars with
  | nil => simp
  | cons c rest ih =>
    by_cases hc : c = feed
    · subst hc
      simp [splitOn_feed_cons, ih]
    · simp [splitOn_cons_of_ne hc, ih, hc]

theorem head?_splitOn_feed (feed : α) (chars : List α) :
    (chars.splitOn feed).head? = some (firstRow feed chars) := by
  induction chars with
  | nil => simp [firstRow]
  | cons c rest ih =>
    by_cases hc : c = feed
    · subst hc
      simp [splitOn_feed_cons, firstRow]
    · simp [splitOn_cons_of_ne hc, ih, firstRow, hc]

theorem lastRow_concat_feed (chars : List α) : lastRow feed (chars ++ [feed]) = [] := by
  simp [lastRow]

theorem lastRow_concat_of_ne {c : α} (hc : c ≠ feed) (chars : List α) :
    lastRow feed (chars ++ [c]) = lastRow feed chars ++ [c] := by
  simp [lastRow, hc]

/-- The rows of the second text follow, the first of them behind the last row of the first text. -/
theorem getElem?_splitOn_append_right (first second : List α) (index : Nat) :
    ((first ++ second).splitOn feed)[first.count feed + index]? =
      (second.splitOn feed)[index]?.map fun row =>
        if index = 0 then lastRow feed first ++ row else row := by
  -- from the end, where the last row of the first text grows
  induction first using List.reverseRecOn generalizing second index with
  | nil => simp [lastRow]
  | append_singleton first c ih =>
    rw [List.append_assoc, List.singleton_append]
    by_cases hc : c = feed
    · subst hc
      have hcount : (first ++ [c]).count c + index = first.count c + (index + 1) := by
        simp
        omega
      rw [hcount, ih, splitOn_feed_cons, lastRow_concat_feed]
      simp
    · have hcount : (first ++ [c]).count feed = first.count feed := by
        simp [hc]
      rw [hcount, ih, splitOn_cons_of_ne hc, lastRow_concat_of_ne hc]
      cases index with
      | zero => simp [Function.comp_def]
      | succ index => simp

/-- The rows of the first text come first, the last of them in front of the first row of the second
text. -/
theorem getElem?_splitOn_append_left (first second : List α) {index : Nat}
    (hindex : index ≤ first.count feed) :
    ((first ++ second).splitOn feed)[index]? =
      (first.splitOn feed)[index]?.map fun row =>
        if index = first.count feed then row ++ firstRow feed second else row := by
  induction first generalizing index with
  | nil =>
    have hzero : index = 0 := by simpa using hindex
    subst hzero
    simp [← List.head?_eq_getElem?, head?_splitOn_feed]
  | cons c rest ih =>
    rw [List.cons_append]
    by_cases hc : c = feed
    · subst hc
      rw [splitOn_feed_cons, splitOn_feed_cons]
      cases index with
      | zero => simp
      | succ index =>
        have hrest : index ≤ rest.count c := by simpa using hindex
        simp [ih hrest]
    · have hcount : (c :: rest).count feed = rest.count feed := by
        simp [hc]
      rw [hcount] at hindex ⊢
      rw [splitOn_cons_of_ne hc, splitOn_cons_of_ne hc]
      have hrow := ih hindex
      cases index with
      | zero =>
        simp only [List.getElem?_modifyHead_zero, hrow, Option.map_map, Function.comp_def,
          List.cons_append, apply_ite (List.cons c)]
      | succ index => simpa using hrow

/-- What a text has in front of a row of a stretch. -/
def leadOf (feed : α) (before : List α) (index : Nat) : List α :=
  if index = 0 then lastRow feed before else []

/-- What a text has behind a row of a stretch that has some number of rows. -/
def trailOf (feed : α) (after : List α) (length index : Nat) : List α :=
  if index + 1 = length then firstRow feed after else []

/-- A row of a stretch is a row of the text without what stands in front of the stretch and behind
it. -/
theorem getElem?_splitOn_of_stretch {before body after row : List α} {index : Nat}
    (hrow : (body.splitOn feed)[index]? = some row) :
    ((before ++ body ++ after).splitOn feed)[before.count feed + index]? =
      some (leadOf feed before index ++ row ++
        trailOf feed after (body.splitOn feed).length index) := by
  have hindex : index < (body.splitOn feed).length := (List.getElem?_eq_some_iff.mp hrow).1
  rw [length_splitOn_feed] at hindex ⊢
  have hinside : index ≤ body.count feed := by omega
  have hlast : index + 1 = body.count feed + 1 ↔ index = body.count feed := by omega
  have hleft := getElem?_splitOn_append_left body after hinside
  rw [List.append_assoc, getElem?_splitOn_append_right, hleft, hrow, Option.map_some,
    Option.map_some, Option.some_inj]
  simp only [leadOf, trailOf, hlast]
  split <;> split <;> simp

end Rows

end ReviewContext.Text

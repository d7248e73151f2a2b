import Mathlib.Data.List.Basic
import ReviewContext.Diff.Header
import ReviewContext.Proofs.Text.Decimal
import ReviewContext.Proofs.Text.RowSplit

/-!
# Hunk headers as rows

A header is written as a row by its marks and the digits of its numbers, with any heading behind
the closing mark. The scanner finds the written digits again, so a header whose numbers are within
the limit is read back from its row.
-/

namespace ReviewContext.Diff

open ReviewContext.Text

/-- Nonempty and nothing but digits. -/
def IsDigitRun (run : List Char) : Prop :=
  run ≠ [] ∧ ∀ c ∈ run, isDigit c = true

/-- No digit stands at the head. -/
def NoDigitAhead (chars : List Char) : Prop :=
  ∀ c rest, chars = c :: rest → isDigit c = false

theorem noDigitAhead_cons {c : Char} {rest : List Char} (hc : isDigit c = false) :
    NoDigitAhead (c :: rest) := by
  intro d tail h
  obtain ⟨rfl, -⟩ := List.cons.inj h
  exact hc

theorem isDigitRun_naturalDigits (n : Nat) : IsDigitRun (naturalDigits n) :=
  ⟨naturalDigits_ne_nil n, fun _ hc => isDigit_of_mem_naturalDigits hc⟩

theorem scanDigits?_append {run rest : List Char}
    (hrun : IsDigitRun run)
    (hrest : NoDigitAhead rest) :
    scanDigits? (run ++ rest) = some (run, rest) := by
  have htake : (run ++ rest).takeWhile isDigit = run := by
    rw [List.takeWhile_append_of_pos hrun.2]
    cases rest with
    | nil => simp
    | cons c tail => rw [List.takeWhile_cons_of_neg (by simp [hrest c tail rfl]), List.append_nil]
  have hdrop : (run ++ rest).dropWhile isDigit = rest := by
    rw [List.dropWhile_append_of_pos hrun.2]
    cases rest with
    | nil => rfl
    | cons c tail => rw [List.dropWhile_cons_of_neg (by simp [hrest c tail rfl])]
  simp only [scanDigits?, htake, hdrop]
  rw [if_neg (by simpa using hrun.1)]

namespace SideDigits

def chars (side : SideDigits) : List Char :=
  match side.count with
  | some count => side.start ++ ',' :: count
  | none => side.start

structure IsWellFormed (side : SideDigits) : Prop where
  start : IsDigitRun side.start
  count : ∀ count, side.count = some count → IsDigitRun count

end SideDigits

/-- A side is scanned back in front of a blank. -/
theorem scanSide?_append {side : SideDigits} {rest : List Char}
    (hside : side.IsWellFormed) :
    scanSide? (side.chars ++ ' ' :: rest) = some (side, ' ' :: rest) := by
  have hblank : NoDigitAhead (' ' :: rest) := noDigitAhead_cons (by decide)
  obtain ⟨start, count⟩ := side
  cases count with
  | none =>
    simp only [SideDigits.chars, scanSide?]
    rw [scanDigits?_append hside.start hblank]
    simp [scanCount]
  | some count =>
    have hcomma : NoDigitAhead (',' :: (count ++ ' ' :: rest)) := noDigitAhead_cons (by decide)
    simp only [SideDigits.chars, scanSide?, List.append_assoc, List.cons_append]
    rw [scanDigits?_append hside.start hcomma]
    simp only [Option.map_some, scanCount]
    rw [scanDigits?_append (hside.count count rfl) hblank]

namespace HeaderDigits

def chars (digits : HeaderDigits) : List Char :=
  ['@', '@', ' ', '-'] ++ digits.old.chars ++ [' ', '+'] ++ digits.new.chars ++ [' ', '@', '@']

theorem scan?_chars_append {digits : HeaderDigits}
    (hold : digits.old.IsWellFormed)
    (hnew : digits.new.IsWellFormed)
    (heading : List Char) :
    scan? (digits.chars ++ heading) = some digits := by
  have hshape :
      digits.chars ++ heading =
        '@' :: '@' :: ' ' :: '-' ::
          (digits.old.chars ++ ' ' :: '+' :: (digits.new.chars ++ ' ' :: '@' :: '@' :: heading)) := by
    simp [chars]
  rw [hshape]
  simp only [scan?, List.isPrefixOf?, beq_self_eq_true, if_true, Option.bind_eq_bind,
    Option.bind_some]
  rw [scanSide?_append hold]
  simp only [List.isPrefixOf?, beq_self_eq_true, if_true, Option.bind_some]
  rw [scanSide?_append hnew]
  simp [List.isPrefixOf?]

theorem isPrefix_of_scan? {chars : List Char} (hscan : (scan? chars).isSome = true) :
    ['@', '@'] <+: chars := by
  match chars with
  | [] => simp [scan?, List.isPrefixOf?] at hscan
  | [c] =>
    by_cases hc : c = '@' <;> simp [scan?, List.isPrefixOf?, hc] at hscan
  | c :: d :: rest =>
    by_cases hc : '@' = c
    · by_cases hd : '@' = d
      · subst hc hd
        exact ⟨rest, rfl⟩
      · simp [scan?, List.isPrefixOf?, hd] at hscan
    · simp [scan?, List.isPrefixOf?, hc] at hscan

end HeaderDigits

theorem header?_eq_none {row : String} (hrow : ¬ ['@', '@'] <+: row.toList) :
    header? row = none := by
  cases hscan : HeaderDigits.scan? row.toList with
  | none => rw [header?, hscan, Option.map_none]
  | some digits =>
    exact absurd (HeaderDigits.isPrefix_of_scan? (by simp [hscan])) hrow

theorem headerFault?_eq_none_of_header? {row : String} (hrow : header? row = none) :
    headerFault? row = none := by
  have hscan : HeaderDigits.scan? row.toList = none := by simpa [header?] using hrow
  rw [headerFault?, hscan, Option.bind_none]

theorem isHeader_eq_isSome (row : String) : isHeader row = (header? row).isSome := by
  rw [isHeader, header?, Option.isSome_map]

namespace Header

def digits (header : Header) : HeaderDigits where
  old := ⟨naturalDigits header.oldStart, some (naturalDigits header.oldCount)⟩
  new := ⟨naturalDigits header.newStart, some (naturalDigits header.newCount)⟩

/-- The row of a header with explicit counts. -/
def row (header : Header) (heading : String) : String :=
  String.ofList (header.digits.chars ++ heading.toList)

/-- Whether all four numbers can be written within the limit. -/
def isWritable (header : Header) : Bool :=
  Text.isWritable header.oldStart && Text.isWritable header.oldCount &&
    Text.isWritable header.newStart && Text.isWritable header.newCount

theorem scan?_row (header : Header) (heading : String) :
    HeaderDigits.scan? (header.row heading).toList = some header.digits := by
  have hside (start count : Nat) :
      SideDigits.IsWellFormed ⟨naturalDigits start, some (naturalDigits count)⟩ := by
    constructor
    · exact isDigitRun_naturalDigits start
    · rintro _ ⟨rfl⟩
      exact isDigitRun_naturalDigits count
  rw [row, String.toList_ofList]
  exact HeaderDigits.scan?_chars_append (hside _ _) (hside _ _) heading.toList

theorem header?_row (header : Header) (heading : String) :
    header? (header.row heading) = some header := by
  rw [header?, scan?_row, Option.map_some]
  simp [HeaderDigits.header, digits, digitsValue_naturalDigits]

theorem headerFault?_row {header : Header} (hheader : header.isWritable = true)
    (heading : String) :
    headerFault? (header.row heading) = none := by
  simp only [isWritable, Bool.and_eq_true] at hheader
  obtain ⟨⟨⟨holdStart, holdCount⟩, hnewStart⟩, hnewCount⟩ := hheader
  rw [headerFault?, scan?_row, Option.bind_some]
  simp [HeaderDigits.fault?, HeaderDigits.runs, digits, readDigits_naturalDigits holdStart,
    readDigits_naturalDigits holdCount, readDigits_naturalDigits hnewStart,
    readDigits_naturalDigits hnewCount]

theorem dropCarriageReturns_row (header : Header) (heading : String) :
    dropCarriageReturns (header.row heading) = header.row (dropCarriageReturns heading) := by
  have hlast : header.digits.chars.getLast? ≠ some '\r' := by
    rw [HeaderDigits.chars, List.getLast?_append]
    simp
  apply String.toList_injective
  rw [row, toList_dropCarriageReturns_append hlast, String.ofList_toList, row,
    String.toList_ofList]

theorem feed_notMem_row (header : Header) {heading : String} (hheading : '\n' ∉ heading.toList) :
    '\n' ∉ (header.row heading).toList := by
  simp [row, HeaderDigits.chars, SideDigits.chars, digits, feed_notMem_naturalDigits, hheading]

end Header

end ReviewContext.Diff

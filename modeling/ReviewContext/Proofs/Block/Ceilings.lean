import ReviewContext.Proofs.Block.WindowRows

/-!
# Blocks within their ceilings

A governed block has no more characters than its ceiling, and no more rows than its ceiling unless
it was cut. A marker is at its longest for the greatest number in it, so the room that is kept for
the marker of a cut is enough for the marker that is written. A span is shown as it is exactly when
its text and its range keep to the ceilings by themselves.
-/

namespace ReviewContext

open ReviewContext.Text

/-! ## Markers -/

namespace Marker

theorem length_between_mono (front back : String) {text other : String}
    (hle : text.length ≤ other.length) :
    (front ++ text ++ back).length ≤ (front ++ other ++ back).length := by
  simp only [String.length_append]
  omega

theorem length_comment_mono (family : Family) {text other : String}
    (hle : text.length ≤ other.length) :
    (comment family text).length ≤ (comment family other).length := by
  unfold comment
  split
  · simpa only [String.append_empty] using length_between_mono "# " "" hle
  · exact length_between_mono "/* " " */" hle

theorem length_truncated_mono (length room : Int) {kept : Int}
    (hkept : 0 ≤ kept)
    (hle : kept ≤ room) :
    (truncated length kept).length ≤ (truncated length room).length :=
  length_between_mono _ "]" (length_numeral_mono hkept hle)

end Marker

theorem length_truncateChars_le (text : String) {maxChars : Int} (family : Family)
    (hchars : 0 ≤ maxChars) :
    ((truncateChars text maxChars family).length : Int) ≤ maxChars := by
  unfold truncateChars
  dsimp only
  split
  · exact length_sliceTo_le _ hchars
  · rename_i hroom
    rw [Int.not_le] at hroom
    have hkept := length_sliceTo_le text (Int.le_of_lt hroom)
    have hmarker :=
      Marker.length_comment_mono family
        (Marker.length_truncated_mono text.length maxChars (Int.le_of_lt hroom) (by omega))
    have hfeed : "\n".length = 1 := by decide
    rw [String.length_append, String.length_append, hfeed]
    omega

/-! ## Governed spans -/

theorem Block.lineCount_le {block : Block} {parts : List String}
    (hcode : block.code = joinRows parts)
    (hfeedless : ∀ part ∈ parts, '\n' ∉ part.toList) :
    block.lineCount ≤ parts.length := by
  unfold Block.lineCount
  split
  · exact Nat.zero_le _
  · rename_i hcontent
    have hne : parts ≠ [] := by
      rintro rfl
      apply hcontent
      rw [hcode]
      decide
    have hrows : rows block.code = parts := by rw [hcode, rows_joinRows hfeedless hne]
    exact Nat.le_of_eq (congrArg List.length hrows)

/-- The three ways to govern a span, each with the block that it gives. -/
inductive Span.Governs (span : Span) (lines : List String) (ceilings : Ceilings) : Block → Prop where
  | whole
      (hchars : (span.verbatim lines).length ≤ ceilings.maxChars)
      (hlines : span.lineTotal ≤ ceilings.maxLines) :
      Governs span lines ceilings (span.block (span.verbatim lines) .none)
  | windowed
      (hlines : ceilings.maxLines < span.lineTotal)
      (hwindowed : (span.windowed lines ceilings.radius ceilings.maxLines
        ceilings.family).length ≤ ceilings.maxChars) :
      Governs span lines ceilings
        (span.block (span.windowed lines ceilings.radius ceilings.maxLines ceilings.family) .window)
  | cut
      (hexceeds : ceilings.maxChars < (span.verbatim lines).length ∨
        ceilings.maxLines < span.lineTotal) :
      Governs span lines ceilings
        (span.block (truncateChars (span.verbatim lines) ceilings.maxChars ceilings.family) .chars)

namespace Span

variable {span : Span} {lines : List String} {ceilings : Ceilings} {block : Block}

theorem governs_govern (span : Span) (lines : List String) (ceilings : Ceilings) :
    span.Governs lines ceilings (span.govern lines ceilings) := by
  unfold govern
  dsimp only
  by_cases hchars : ceilings.maxChars < (span.verbatim lines).length
  · rw [if_pos hchars]
    exact .cut (.inl hchars)
  · rw [if_neg hchars]
    by_cases hlines : ceilings.maxLines < span.lineTotal
    · rw [if_pos hlines]
      split
      · exact .cut (.inr hlines)
      · rename_i hwindowed
        exact .windowed hlines (Int.not_lt.mp hwindowed)
    · rw [if_neg hlines]
      exact .whole (Int.not_lt.mp hchars) (Int.not_lt.mp hlines)

theorem Governs.length_le (hgoverns : span.Governs lines ceilings block)
    (hchars : 0 ≤ ceilings.maxChars) :
    (block.code.length : Int) ≤ ceilings.maxChars := by
  cases hgoverns with
  | whole hwhole _ => exact hwhole
  | windowed _ hwindowed => exact hwindowed
  | cut _ => exact length_truncateChars_le _ _ hchars

theorem Governs.truncation_eq_none_iff (hgoverns : span.Governs lines ceilings block) :
    block.truncation = .none ↔
      (span.verbatim lines).length ≤ ceilings.maxChars ∧ span.lineTotal ≤ ceilings.maxLines := by
  cases hgoverns with
  | whole hchars hlines => simp [Span.block, hchars, hlines]
  | windowed hlines _ =>
    simp only [Span.block, reduceCtorEq, false_iff]
    omega
  | cut hexceeds =>
    simp only [Span.block, reduceCtorEq, false_iff]
    omega

theorem Governs.code_eq (hgoverns : span.Governs lines ceilings block)
    (htruncation : block.truncation = .none) :
    block.code = span.verbatim lines := by
  cases hgoverns with
  | whole _ _ => rfl
  | windowed _ _ => cases htruncation
  | cut _ => cases htruncation

theorem lineCount_whole_le
    (hfeedless : ∀ line ∈ lines, '\n' ∉ line.toList)
    (hfirst : 1 ≤ span.first)
    (hlast : span.first ≤ span.last) :
    ((span.block (span.verbatim lines) .none).lineCount : Int) ≤ span.lineTotal := by
  have hslice :
      ((slice lines (span.first - 1) span.last).length : Int) ≤ span.last - (span.first - 1) :=
    length_slice_le lines (by omega) (by omega)
  have hcount : (span.block (span.verbatim lines) .none).lineCount ≤
      (slice lines (span.first - 1) span.last).length := by
    apply Block.lineCount_le rfl
    intro line hline
    exact hfeedless line (slice_subset lines _ _ hline)
  unfold lineTotal
  omega

theorem lineCount_windowed_le {radius maxLines : Int} (family : Family)
    (hfeedless : ∀ line ∈ lines, '\n' ∉ line.toList)
    (hlines : 1 ≤ maxLines) :
    ((span.block (span.windowed lines radius maxLines family) .window).lineCount : Int) ≤
      maxLines := by
  have hrows : ∀ row ∈ span.windowRows lines radius, '\n' ∉ (row.render family).toList :=
    fun _ hrow => feed_notMem_windowRow family hfeedless hrow
  have hcap := length_capRows_le span (span.windowRows lines radius) hlines
  have hcount :
      (span.block (span.windowed lines radius maxLines family) .window).lineCount ≤
        (span.capRows maxLines (span.windowRows lines radius)).length := by
    rw [← List.length_map (WindowRow.render family)]
    apply Block.lineCount_le rfl
    intro text htext
    obtain ⟨row, hrow, rfl⟩ := List.mem_map.mp htext
    exact feed_notMem_capRows family hrows row hrow
  omega

theorem Governs.lineCount_le (hgoverns : span.Governs lines ceilings block)
    (hfeedless : ∀ line ∈ lines, '\n' ∉ line.toList)
    (hfirst : 1 ≤ span.first)
    (hlast : span.first ≤ span.last)
    (hlines : 1 ≤ ceilings.maxLines)
    (htruncation : block.truncation ≠ .chars) :
    (block.lineCount : Int) ≤ ceilings.maxLines := by
  cases hgoverns with
  | whole _ htotal => exact Int.le_trans (lineCount_whole_le hfeedless hfirst hlast) htotal
  | windowed _ _ => exact lineCount_windowed_le _ hfeedless hlines
  | cut _ => exact absurd rfl htruncation

theorem tryGovern_eq_ok (htotal : span.lineTotal < 10 ^ digitLimit) :
    span.tryGovern lines ceilings = .ok (span.govern lines ceilings) := by
  simp [tryGovern, hasWritableGaps_of_lineTotal htotal]

end Span

/-- A governed block keeps to both ceilings, and nothing is left out of it without need. Only a
number of lines that cannot be written could keep it from being made. -/
theorem govern_withinCeilings {span : Span} {lines : List String} {ceilings : Ceilings}
    (hfeedless : ∀ line ∈ lines, '\n' ∉ line.toList)
    (hfirst : 1 ≤ span.first)
    (hlast : span.first ≤ span.last)
    (hchars : 1 ≤ ceilings.maxChars)
    (hlines : 1 ≤ ceilings.maxLines) :
    (span.lineTotal < 10 ^ digitLimit →
        span.tryGovern lines ceilings = .ok (span.govern lines ceilings)) ∧
      ((span.govern lines ceilings).code.length : Int) ≤ ceilings.maxChars ∧
      ((span.govern lines ceilings).truncation ≠ .chars →
        ((span.govern lines ceilings).lineCount : Int) ≤ ceilings.maxLines) ∧
      ((span.govern lines ceilings).truncation = .none ↔
        (span.verbatim lines).length ≤ ceilings.maxChars ∧
          span.lineTotal ≤ ceilings.maxLines) ∧
      ((span.govern lines ceilings).truncation = .none →
        (span.govern lines ceilings).code = span.verbatim lines) := by
  have hgoverns := span.governs_govern lines ceilings
  refine ⟨Span.tryGovern_eq_ok, ?_, ?_, ?_, ?_⟩
  · exact hgoverns.length_le (by omega)
  · exact hgoverns.lineCount_le hfeedless hfirst hlast hlines
  · exact hgoverns.truncation_eq_none_iff
  · exact hgoverns.code_eq

namespace LongFunction

def lines : List String :=
  ["import a", "def f():", "    b()", "    c()", "    d()", "    e()", "f()"]

def span : Span :=
  ⟨2, 6, "function", some "f", .ofList [4], 0⟩

/-- The text of the function keeps to the first of these ceilings, its windows do not. -/
def ceilings : Ceilings :=
  ⟨64, 3, 0, .python⟩

def block : Block :=
  ⟨"def f():\n# [diffscope:truncated original_chars=40 kept_chars=8]", 2, 6, "function", some "f",
    .chars⟩

theorem govern_eq : span.govern lines ceilings = block := by
  decide +kernel

end LongFunction

theorem longFunction_withinCeilings :
    LongFunction.span.tryGovern LongFunction.lines LongFunction.ceilings =
        .ok LongFunction.block ∧
      (LongFunction.block.code.length : Int) ≤ 64 ∧
      (LongFunction.block.truncation = .none ↔
        (LongFunction.span.verbatim LongFunction.lines).length ≤ (64 : Int) ∧
          LongFunction.span.lineTotal ≤ 3) := by
  have hfeedless : ∀ line ∈ LongFunction.lines, '\n' ∉ line.toList := by decide
  have hfirst : 1 ≤ LongFunction.span.first := by decide
  have hlast : LongFunction.span.first ≤ LongFunction.span.last := by decide
  have hchars : 1 ≤ LongFunction.ceilings.maxChars := by decide
  have hlines : 1 ≤ LongFunction.ceilings.maxLines := by decide
  have htotal : LongFunction.span.lineTotal < 10 ^ digitLimit := by
    have hfive : LongFunction.span.lineTotal = 5 := by decide
    have hten : (10 : Int) ^ 1 < 10 ^ digitLimit := Int.pow_lt_pow_of_lt (by decide) (by decide)
    omega
  obtain ⟨hresult, hlength, -, htruncation, -⟩ :=
    govern_withinCeilings hfeedless hfirst hlast hchars hlines
  have hgovern := hresult htotal
  rw [LongFunction.govern_eq] at hgovern hlength htruncation
  exact ⟨hgovern, hlength, htruncation⟩

end ReviewContext

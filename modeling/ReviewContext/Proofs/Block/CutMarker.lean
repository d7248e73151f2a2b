import ReviewContext.Proofs.Block.Ceilings

/-!
# What the marker of a cut block tells

The marker of a cut block gives the length of the text and, as the number of characters that are
kept, the room that the ceiling leaves for them. This is true as long as the text is longer than
the room, so for every text over the ceiling. A text within the ceiling is cut as well if its
windows are over it; where the room holds all of the text, nothing is left out and the marker gives
more characters as kept than there are.
-/

namespace ReviewContext

open ReviewContext.Text

/-- The characters that a ceiling leaves for a text in front of the marker. -/
def cutRoom (text : String) (maxChars : Int) (family : Family) : Int :=
  maxChars - (Marker.comment family (Marker.truncated text.length maxChars)).length - 1

/-- A proper prefix of a text, followed by a marker that gives the length of the text and of the
prefix. -/
def IsCutOf (family : Family) (text code : String) : Prop :=
  ∃ kept : String, kept.toList <+: text.toList ∧ kept.length < text.length ∧
    code = kept ++ "\n" ++ Marker.comment family (Marker.truncated text.length kept.length)

theorem toList_sliceTo (text : String) {stop : Int} (hstop : 0 ≤ stop) :
    (sliceTo text stop).toList = text.toList.take stop.toNat := by
  obtain ⟨last, rfl⟩ := Int.eq_ofNat_of_zero_le hstop
  have hslice := slice_of_nonneg text.toList 0 last
  rw [sliceTo, String.toList_ofList, Int.toNat_natCast]
  simpa using hslice

section Truncation

variable {text : String} {maxChars : Int} {family : Family}

theorem truncateChars_of_room (hroom : 0 < cutRoom text maxChars family) :
    truncateChars text maxChars family =
      sliceTo text (cutRoom text maxChars family) ++ "\n" ++
        Marker.comment family
          (Marker.truncated text.length (cutRoom text maxChars family)) := by
  have hleaves : ¬ cutRoom text maxChars family ≤ 0 := Int.not_le.mpr hroom
  unfold cutRoom at hleaves
  rw [truncateChars, if_neg hleaves]
  rfl

theorem truncateChars_of_length_le
    (hroom : 0 < cutRoom text maxChars family)
    (hlength : text.length ≤ cutRoom text maxChars family) :
    truncateChars text maxChars family =
      text ++ "\n" ++
        Marker.comment family
          (Marker.truncated text.length (cutRoom text maxChars family)) := by
  have hwhole : sliceTo text (cutRoom text maxChars family) = text := by
    apply String.toList_injective
    rw [toList_sliceTo text (Int.le_of_lt hroom), List.take_of_length_le]
    rw [String.length_toList]
    omega
  rw [truncateChars_of_room hroom, hwhole]

theorem isCutOf_truncateChars
    (hroom : 0 < cutRoom text maxChars family)
    (hlength : cutRoom text maxChars family < text.length) :
    IsCutOf family text (truncateChars text maxChars family) := by
  have hkept := toList_sliceTo text (Int.le_of_lt hroom)
  have hcount : ((sliceTo text (cutRoom text maxChars family)).length : Int) =
      cutRoom text maxChars family := by
    rw [← String.length_toList, hkept, List.length_take, String.length_toList]
    omega
  refine ⟨sliceTo text (cutRoom text maxChars family), ?_, ?_, ?_⟩
  · rw [hkept]
    exact List.take_prefix _ _
  · omega
  · rw [truncateChars_of_room hroom, hcount]

/-- A shorter prefix has no longer marker, so no other reading of the code makes up for a room that
holds the whole text. -/
theorem not_isCutOf_truncateChars
    (hroom : 0 < cutRoom text maxChars family)
    (hlength : text.length ≤ cutRoom text maxChars family) :
    ¬ IsCutOf family text (truncateChars text maxChars family) := by
  rintro ⟨kept, -, hshorter, hcode⟩
  rw [truncateChars_of_length_le hroom hlength] at hcode
  have hnonneg : (0 : Int) ≤ kept.length := Int.natCast_nonneg _
  have hle : (kept.length : Int) ≤ cutRoom text maxChars family := by omega
  have hmarker :=
    Marker.length_comment_mono family (Marker.length_truncated_mono text.length _ hnonneg hle)
  have hsame := congrArg String.length hcode
  simp only [String.length_append] at hsame
  omega

theorem isCutOf_truncateChars_iff (hroom : 0 < cutRoom text maxChars family) :
    IsCutOf family text (truncateChars text maxChars family) ↔
      cutRoom text maxChars family < text.length := by
  constructor
  · intro hcut
    refine Int.not_le.mp fun hlength => ?_
    exact not_isCutOf_truncateChars hroom hlength hcut
  · exact isCutOf_truncateChars hroom

theorem cutRoom_lt (text : String) (maxChars : Int) (family : Family) :
    cutRoom text maxChars family < maxChars := by
  unfold cutRoom
  omega

end Truncation

namespace Span

variable {span : Span} {lines : List String} {ceilings : Ceilings} {block : Block}

theorem eq_govern_of_tryGovern (hblock : span.tryGovern lines ceilings = .ok block) :
    block = span.govern lines ceilings := by
  unfold tryGovern at hblock
  split at hblock
  · cases hblock
  · exact (Except.ok.inj hblock).symm

theorem Governs.code_eq_of_chars (hgoverns : span.Governs lines ceilings block)
    (htruncation : block.truncation = .chars) :
    block.code = truncateChars (span.verbatim lines) ceilings.maxChars ceilings.family := by
  cases hgoverns with
  | whole _ _ => cases htruncation
  | windowed _ _ => cases htruncation
  | cut _ => rfl

/-- The marker of a cut block tells the truth exactly if the text is longer than the room for it,
as every text over the ceiling is. Otherwise all of the text is kept and the room given as the
number of characters kept. -/
theorem isCutOf_govern_iff
    (hblock : span.tryGovern lines ceilings = .ok block)
    (htruncation : block.truncation = .chars)
    (hroom : 0 < cutRoom (span.verbatim lines) ceilings.maxChars ceilings.family) :
    (IsCutOf ceilings.family (span.verbatim lines) block.code ↔
        cutRoom (span.verbatim lines) ceilings.maxChars ceilings.family <
          (span.verbatim lines).length) ∧
      (ceilings.maxChars < (span.verbatim lines).length →
        IsCutOf ceilings.family (span.verbatim lines) block.code) ∧
      ((span.verbatim lines).length ≤
          cutRoom (span.verbatim lines) ceilings.maxChars ceilings.family →
        block.code = span.verbatim lines ++ "\n" ++
          Marker.comment ceilings.family
            (Marker.truncated (span.verbatim lines).length
              (cutRoom (span.verbatim lines) ceilings.maxChars ceilings.family))) := by
  have hgoverns := span.governs_govern lines ceilings
  rw [← eq_govern_of_tryGovern hblock] at hgoverns
  rw [hgoverns.code_eq_of_chars htruncation]
  refine ⟨isCutOf_truncateChars_iff hroom, ?_, truncateChars_of_length_le hroom⟩
  intro hover
  have hbelow := cutRoom_lt (span.verbatim lines) ceilings.maxChars ceilings.family
  exact isCutOf_truncateChars hroom (by omega)

end Span

/-- The text of the function is within the ceiling, but longer than the room. -/
theorem longFunction_isCutOf :
    (LongFunction.span.verbatim LongFunction.lines).length ≤ LongFunction.ceilings.maxChars ∧
      IsCutOf .python (LongFunction.span.verbatim LongFunction.lines) LongFunction.block.code := by
  have htotal : LongFunction.span.lineTotal < 10 ^ digitLimit :=
    lt_pow_digitLimit_of_le_ten (by decide)
  have hblock : LongFunction.span.tryGovern LongFunction.lines LongFunction.ceilings =
      .ok LongFunction.block := by
    rw [Span.tryGovern_eq_ok htotal, LongFunction.govern_eq]
  have hroom : cutRoom (LongFunction.span.verbatim LongFunction.lines) 64 .python = 8 := by
    decide +kernel
  have hlength : (LongFunction.span.verbatim LongFunction.lines).length = 40 := by
    decide +kernel
  have hpos : 0 < cutRoom (LongFunction.span.verbatim LongFunction.lines)
      LongFunction.ceilings.maxChars LongFunction.ceilings.family := by
    rw [LongFunction.ceilings, hroom]
    decide
  obtain ⟨hcut, -, -⟩ := Span.isCutOf_govern_iff hblock rfl hpos
  constructor
  · rw [hlength]
    decide
  · refine hcut.mpr ?_
    rw [LongFunction.ceilings, hroom, hlength]
    decide

/-! ## Windows over the ceiling -/

namespace ShortRows

def lines : List String :=
  ["a", "b", "c", "d"]

/-- The covered row with a marker on either side is longer than the ceiling, the four rows are
not. -/
def span : Span :=
  ⟨1, 4, "function", some "f", .ofList [2], 0⟩

def ceilings : Ceilings :=
  ⟨68, 3, 0, .javascript⟩

def block : Block :=
  ⟨"a\nb\nc\nd\n/* [diffscope:truncated original_chars=7 kept_chars=9] */", 1, 4, "function",
    some "f", .chars⟩

theorem tryGovern_eq : span.tryGovern lines ceilings = .ok block := by
  have hgovern : span.govern lines ceilings = block := by decide +kernel
  have htotal : span.lineTotal < 10 ^ digitLimit := lt_pow_digitLimit_of_le_ten (by decide)
  rw [Span.tryGovern_eq_ok htotal, hgovern]

theorem cutRoom_eq : cutRoom (span.verbatim lines) 68 .javascript = 9 := by
  decide +kernel

theorem not_isCutOf : ¬ IsCutOf .javascript (span.verbatim lines) block.code := by
  have hcode : block.code = truncateChars (span.verbatim lines) 68 .javascript := by decide +kernel
  have hlength : (span.verbatim lines).length = 7 := by decide +kernel
  have hroom : 0 < cutRoom (span.verbatim lines) 68 .javascript := by
    rw [cutRoom_eq]
    decide
  rw [hcode, isCutOf_truncateChars_iff hroom, cutRoom_eq, hlength]
  decide

end ShortRows

/-- A block can be cut so that its marker gives more characters as kept than its text has. -/
theorem exists_untrue_cutMarker :
    ¬ ∀ (span : Span) (lines : List String) (ceilings : Ceilings) (block : Block),
      (∀ line ∈ lines, '\n' ∉ line.toList) →
        1 ≤ span.first → span.first ≤ span.last → span.last ≤ lines.length →
          span.covered.isEmpty = false →
            (∀ line ∈ span.covered, span.first ≤ line ∧ line ≤ span.last) →
              0 ≤ ceilings.radius → 1 ≤ ceilings.maxChars → 1 ≤ ceilings.maxLines →
                span.tryGovern lines ceilings = .ok block →
                  block.truncation = .chars →
                    0 < cutRoom (span.verbatim lines) ceilings.maxChars ceilings.family →
                      IsCutOf ceilings.family (span.verbatim lines) block.code := by
  intro htrue
  have hcovered : ∀ line ∈ ShortRows.span.covered,
      ShortRows.span.first ≤ line ∧ line ≤ ShortRows.span.last := by
    intro line hline
    have hmem : line ∈ [2] := LineSet.mem_ofList.mp hline
    rw [List.mem_singleton] at hmem
    simp only [ShortRows.span]
    omega
  have hroom : 0 < cutRoom (ShortRows.span.verbatim ShortRows.lines)
      ShortRows.ceilings.maxChars ShortRows.ceilings.family := by
    rw [ShortRows.ceilings, ShortRows.cutRoom_eq]
    decide
  exact ShortRows.not_isCutOf
    (htrue ShortRows.span ShortRows.lines ShortRows.ceilings ShortRows.block (by decide) (by decide)
      (by decide) (by decide) (by decide) hcovered (by decide) (by decide) (by decide)
      ShortRows.tryGovern_eq rfl hroom)

end ReviewContext

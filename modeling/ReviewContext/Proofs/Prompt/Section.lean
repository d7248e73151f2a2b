import ReviewContext.Prompt.Basic
import ReviewContext.Proofs.Report.Steps

/-!
# Sections of a prompt

A block has a section in a prompt exactly if its lines can be written, and a prompt can be made of
blocks exactly if each of them has its section.
-/

namespace ReviewContext.Prompt

open ReviewContext.Text

variable {block : Block} {blocks : List Block}

/-- The lines of a block can be written. -/
def HasWritableLines (block : Block) : Prop :=
  isWritable block.first = true ∧ isWritable block.last = true
  deriving Decidable

theorem heading_eq_ok_iff {text : String} :
    heading block = .ok text ↔
      HasWritableLines block ∧
        "### " ++ blockLabel block ++ " (lines " ++ numeral block.first ++ "-" ++
          numeral block.last ++ ")" = text := by
  unfold heading HasWritableLines
  split <;> simp_all

theorem exists_formatBlock_iff :
    (∃ text, formatBlock block = .ok text) ↔ HasWritableLines block := by
  simp [formatBlock, exists_map_eq_ok, heading_eq_ok_iff]

theorem exists_mapM_formatBlock_iff :
    (∃ sections, blocks.mapM formatBlock = .ok sections) ↔
      ∀ block ∈ blocks, HasWritableLines block := by
  induction blocks with
  | nil => simp [pure, Except.pure]
  | cons block rest ih =>
    rw [List.forall_mem_cons, ← ih, ← exists_formatBlock_iff, List.mapM_cons]
    simp only [bind_eq_ok, pure_eq_ok]
    constructor
    · rintro ⟨_, text, htext, sections, hsections, rfl⟩
      exact ⟨⟨text, htext⟩, sections, hsections⟩
    · rintro ⟨⟨text, htext⟩, sections, hsections⟩
      exact ⟨_, text, htext, sections, hsections, rfl⟩

theorem exists_assemble_iff {numbered : String} {context system : Option String} :
    (∃ prompt, assemble numbered blocks context system = .ok prompt) ↔
      ∀ block ∈ blocks, HasWritableLines block := by
  simp only [assemble, exists_map_eq_ok]
  unfold codePart
  split
  · rename_i hempty
    simp [List.isEmpty_iff.mp hempty]
  · simp only [exists_map_eq_ok, exists_mapM_formatBlock_iff]

end ReviewContext.Prompt

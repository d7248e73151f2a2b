import ReviewContext.Json.Text
import ReviewContext.Proofs.Text.Decimal

/-!
# JSON texts on one row

A value that is written on one row takes one row only: strings escape their line feeds, and nothing
else in the text could hold one.
-/

namespace ReviewContext.Json

open ReviewContext.Text

theorem feed_ne_digitChar (n : Nat) : '\n' ≠ Nat.digitChar (n % 16) := by
  have hdigits : ∀ digit < 16, '\n' ≠ Nat.digitChar digit := by
    decide
  exact hdigits (n % 16) (Nat.mod_lt n (by decide))

theorem feed_notMem_hexDigits (width n : Nat) : '\n' ∉ hexDigits width n := by
  induction width generalizing n with
  | zero => exact List.not_mem_nil
  | succ width ih => simp [hexDigits, ih, feed_ne_digitChar]

theorem feed_notMem_escapeCode (code : Nat) : '\n' ∉ escapeCode code := by
  unfold escapeCode
  split <;> simp [escapeUnit, feed_notMem_hexDigits]

theorem feed_notMem_escapeChar (charset : Charset) (c : Char) : '\n' ∉ escapeChar charset c := by
  by_cases hfeed : c = '\n'
  · subst hfeed
    cases charset <;> decide
  · have hother : '\n' ≠ c := fun heq => hfeed heq.symm
    unfold escapeChar
    repeat' split
    all_goals simp [feed_notMem_escapeCode, hother]

theorem feed_notMem_stringText (charset : Charset) (text : String) :
    '\n' ∉ stringText charset text := by
  have hquote : '\n' ≠ quoteMark := by
    decide
  simp [stringText, hquote, feed_notMem_escapeChar]

theorem feed_notMem_atomText (charset : Charset) (value : Json) :
    '\n' ∉ atomText charset value := by
  cases value with
  | null => simp [atomText]
  | bool flag => cases flag <;> simp [atomText]
  | int n => exact feed_notMem_integerDigits n
  | text string => exact feed_notMem_stringText charset string
  | list items => simp [atomText]
  | object members => simp [atomText]

/-- Separators that hold no line feed. -/
structure Style.IsFeedless (style : Style) : Prop where
  item : '\n' ∉ style.item
  member : '\n' ∉ style.member

variable {style : Style}

mutual

theorem feed_notMem_rowText (hstyle : style.IsFeedless) :
    (value : Json) → '\n' ∉ rowText style value
  | .list (item :: items) => by
    simp [rowText, feed_notMem_rowText hstyle item, feed_notMem_itemTexts hstyle items]
  | .object ((key, value) :: members) => by
    simp [rowText, feed_notMem_stringText, hstyle.member, feed_notMem_rowText hstyle value,
      feed_notMem_memberTexts hstyle members]
  | .null => by simp only [rowText, feed_notMem_atomText, not_false_eq_true]
  | .bool _ => by simp only [rowText, feed_notMem_atomText, not_false_eq_true]
  | .int _ => by simp only [rowText, feed_notMem_atomText, not_false_eq_true]
  | .text _ => by simp only [rowText, feed_notMem_atomText, not_false_eq_true]
  | .list [] => by simp only [rowText, feed_notMem_atomText, not_false_eq_true]
  | .object [] => by simp only [rowText, feed_notMem_atomText, not_false_eq_true]

theorem feed_notMem_itemTexts (hstyle : style.IsFeedless) :
    (items : List Json) → '\n' ∉ itemTexts style items
  | [] => by simp [itemTexts]
  | item :: items => by
    simp [itemTexts, hstyle.item, feed_notMem_rowText hstyle item,
      feed_notMem_itemTexts hstyle items]

theorem feed_notMem_memberTexts (hstyle : style.IsFeedless) :
    (members : List (String × Json)) → '\n' ∉ memberTexts style members
  | [] => by simp [memberTexts]
  | (key, value) :: members => by
    simp [memberTexts, hstyle.item, hstyle.member, feed_notMem_stringText,
      feed_notMem_rowText hstyle value, feed_notMem_memberTexts hstyle members]

end

theorem feed_notMem_render (hstyle : style.IsFeedless) (value : Json) :
    '\n' ∉ (render style value).toList := by
  rw [render, String.toList_ofList]
  exact feed_notMem_rowText hstyle value

end ReviewContext.Json

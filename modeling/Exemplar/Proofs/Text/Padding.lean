import Exemplar.Text.Space
import Mathlib.Data.List.TakeWhile

/-!
A text between white space. However a text is padded, trimming takes it back to the same core, so
what is kept under a trimmed text is found under the paddings of this text and under no other.
-/

set_option autoImplicit false
set_option relaxedAutoImplicit false

namespace Exemplar.Text

/-- The second text is the first one with white space put to its ends. -/
def IsPadding (text padded : String) : Prop :=
  ∃ before after : List Char, (∀ c ∈ before, isSpace c = true) ∧ (∀ c ∈ after, isSpace c = true) ∧
    padded.toList = before ++ (text.toList ++ after)

/-! ### Trimming a padded text -/

section

variable {text before after : List Char}

theorem trimStart_append (hbefore : ∀ c ∈ before, isSpace c = true) :
    trimStart (before ++ text) = trimStart text :=
  List.dropWhile_append_of_pos hbefore

theorem trimEnd_append (hafter : ∀ c ∈ after, isSpace c = true) :
    trimEnd (text ++ after) = trimEnd text := by
  have hreverse : ∀ c ∈ after.reverse, isSpace c = true :=
    fun c hc ↦ hafter c (List.mem_reverse.1 hc)
  rw [trimEnd, List.reverse_append, List.dropWhile_append_of_pos hreverse, trimEnd]

theorem trimChars_append (hafter : ∀ c ∈ after, isSpace c = true) :
    trimChars (text ++ after) = trimChars text := by
  rw [trimChars, trimChars]
  -- If nothing is left of the text itself then the white space behind it is at the start too.
  by_cases hblank : trimStart text = []
  · have hall : trimStart (text ++ after) = [] := by
      rw [trimStart, List.dropWhile_append, show List.dropWhile isSpace text = [] from hblank]
      exact List.dropWhile_eq_nil_iff.2 hafter
    rw [hall, hblank]
  · have hkept : trimStart (text ++ after) = trimStart text ++ after := by
      rw [trimStart, List.dropWhile_append, if_neg (by simpa [trimStart] using hblank), trimStart]
    rw [hkept, trimEnd_append hafter]

end

/-- Padding a text does not change its trimming. -/
theorem IsPadding.trim_eq {text padded : String} (h : IsPadding text padded) :
    trim padded = trim text := by
  obtain ⟨before, after, hbefore, hafter, hpadded⟩ := h
  have hstart : trimChars (before ++ (text.toList ++ after)) =
      trimChars (text.toList ++ after) := by
    rw [trimChars, trimStart_append hbefore, trimChars]
  rw [trim, hpadded, hstart, trimChars_append hafter, trim]

/-- Every text is a padding of its trimming. -/
theorem isPadding_trim (text : String) : IsPadding (trim text) text := by
  have hstart : text.toList = text.toList.takeWhile isSpace ++ trimStart text.toList :=
    List.takeWhile_append_dropWhile.symm
  have hend (rest : List Char) :
      rest = trimEnd rest ++ (rest.reverse.takeWhile isSpace).reverse := by
    rw [trimEnd, ← List.reverse_append, List.takeWhile_append_dropWhile, List.reverse_reverse]
  refine ⟨text.toList.takeWhile isSpace,
    ((trimStart text.toList).reverse.takeWhile isSpace).reverse, fun c hc ↦ ?_, fun c hc ↦ ?_, ?_⟩
  · exact List.mem_takeWhile_imp hc
  · exact List.mem_takeWhile_imp (List.mem_reverse.1 hc)
  · rw [toList_trim, trimChars, ← hend]
    exact hstart

/-- The paddings of a trimmed text are the texts that are trimmed to it. -/
theorem isPadding_iff {text padded : String} (htext : trim text = text) :
    IsPadding text padded ↔ trim padded = text :=
  ⟨fun h ↦ h.trim_eq.trans htext, fun h ↦ h ▸ isPadding_trim padded⟩

end Exemplar.Text

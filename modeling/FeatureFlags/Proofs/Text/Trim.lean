import FeatureFlags.Text.Blank
import Mathlib.Data.List.DropRight

/-!
# What trimming leaves

Trimming passes over blanks in front of a text (`trim_append`), leaves a text that is not blank at
either end as it is (`trim_of_not_blank`), and leaves nothing of a text if and only if all of it is
blank (`trim_eq_nil_iff`).
-/

namespace FeatureFlags.Text

variable {text : List Char}

theorem trimEnd_eq_rdropWhile (text : List Char) : trimEnd text = text.rdropWhile isBlank := rfl

/-- Blanks in front of a text are passed over. -/
theorem trim_append {blanks : List Char} (hblanks : ∀ c ∈ blanks, isBlank c = true)
    (text : List Char) : trim (blanks ++ text) = trim text := by
  rw [trim, trimStart, List.dropWhile_append_of_pos hblanks, trim, trimStart]

/-- A text that neither begins nor ends with a blank stays as it is. -/
theorem trim_of_not_blank (hne : text ≠ []) (hhead : isBlank (text.head hne) = false)
    (hlast : isBlank (text.getLast hne) = false) : trim text = text := by
  have hstart : trimStart text = text := by
    rw [trimStart, List.dropWhile_eq_self_iff]
    intro hlength
    rw [← List.head_eq_getElem_zero hne, hhead]
    exact Bool.false_ne_true
  have hend : trimEnd text = text := by
    rw [trimEnd_eq_rdropWhile, List.rdropWhile_eq_self_iff]
    intro _
    rw [hlast]
    exact Bool.false_ne_true
  rw [trim, hstart, hend]

/-- Nothing is left of blanks, and of nothing else. -/
theorem trim_eq_nil_iff : trim text = [] ↔ ∀ c ∈ text, isBlank c = true := by
  rw [trim, trimEnd_eq_rdropWhile, List.rdropWhile_eq_nil_iff, trimStart]
  constructor
  · intro hrest c hc
    -- what trimming removes in front is blank as well
    rw [← List.takeWhile_append_dropWhile (p := isBlank) (l := text), List.mem_append] at hc
    rcases hc with hfront | hbehind
    · exact List.mem_takeWhile_imp hfront
    · exact hrest c hbehind
  · exact fun hblank c hc => hblank c ((List.dropWhile_sublist isBlank).mem hc)

theorem isEmpty_trim_of_visible (hvisible : ∃ c ∈ text, isBlank c = false) :
    (trim text).isEmpty = false := by
  rw [List.isEmpty_eq_false_iff, ne_eq, trim_eq_nil_iff]
  obtain ⟨c, hc, hblank⟩ := hvisible
  exact fun hall => Bool.false_ne_true (hblank.symm.trans (hall c hc))

end FeatureFlags.Text

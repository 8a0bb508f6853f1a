import FeatureFlags.Text.Split
import Mathlib.Data.List.Basic

/-!
# Joined parts are split again

Splitting distributes over a separator (`split_append_separator`), and a part without separators is
found as it was.  So parts that have been joined are split into themselves (`split_join`).
-/

namespace FeatureFlags.Text

variable {isSeparator : Char → Bool} {separator : Char} {part : List Char}

theorem splitOnce?_of_forall (hpart : ∀ c ∈ part, isSeparator c = false) :
    splitOnce? isSeparator part = none := by
  induction part with
  | nil => rfl
  | cons c part ih =>
      obtain ⟨hc, hpart⟩ := List.forall_mem_cons.mp hpart
      rw [splitOnce?, hc, if_neg Bool.false_ne_true, ih hpart]
      rfl

theorem splitOnce?_append (hpart : ∀ c ∈ part, isSeparator c = false)
    (hseparator : isSeparator separator = true) (rest : List Char) :
    splitOnce? isSeparator (part ++ separator :: rest) = some (part, rest) := by
  induction part with
  | nil => rw [List.nil_append, splitOnce?, if_pos hseparator]
  | cons c part ih =>
      obtain ⟨hc, hpart⟩ := List.forall_mem_cons.mp hpart
      rw [List.cons_append, splitOnce?, hc, if_neg Bool.false_ne_true, ih hpart]
      rfl

theorem split_of_forall (hpart : ∀ c ∈ part, isSeparator c = false) :
    split isSeparator part = [part] := by
  induction part with
  | nil => rfl
  | cons c part ih =>
      obtain ⟨hc, hpart⟩ := List.forall_mem_cons.mp hpart
      rw [split, hc, if_neg Bool.false_ne_true, ih hpart]

/-- Two texts with a separator between them are split into the parts of both. -/
theorem split_append_separator (hseparator : isSeparator separator = true)
    (first second : List Char) :
    split isSeparator (first ++ separator :: second) =
      split isSeparator first ++ split isSeparator second := by
  induction first with
  | nil =>
      rw [List.nil_append, split, List.singleton_append, split, if_pos hseparator]
  | cons c first ih =>
      simp only [List.cons_append, split, ih]
      split
      · rfl
      · -- the first part goes on to the left, and there always is one
        obtain ⟨part, parts, hparts⟩ := List.exists_cons_of_ne_nil (split_ne_nil isSeparator first)
        rw [hparts, List.cons_append]
        rfl

theorem split_append (hpart : ∀ c ∈ part, isSeparator c = false)
    (hseparator : isSeparator separator = true) (rest : List Char) :
    split isSeparator (part ++ separator :: rest) = part :: split isSeparator rest := by
  rw [split_append_separator hseparator, split_of_forall hpart, List.singleton_append]

/-- **Joined parts are split again.** -/
theorem split_join (hseparator : isSeparator separator = true) {parts : List (List Char)}
    (hparts : ∀ part ∈ parts, ∀ c ∈ part, isSeparator c = false) (hne : parts ≠ []) :
    split isSeparator (join separator parts) = parts := by
  induction parts with
  | nil => exact absurd rfl hne
  | cons part rest ih =>
      obtain ⟨hpart, hrest⟩ := List.forall_mem_cons.mp hparts
      cases rest with
      | nil => exact split_of_forall hpart
      | cons next rest =>
          rw [join, split_append hpart hseparator, ih hrest (List.cons_ne_nil next rest)]

/-- Behind the first part each of the others is preceded by the separator. -/
theorem join_cons (separator : Char) (part : List Char) (rest : List (List Char)) :
    join separator (part :: rest) = part ++ rest.flatMap (separator :: ·) := by
  induction rest generalizing part with
  | nil => rw [join, List.flatMap_nil, List.append_nil]
  | cons next rest ih => rw [join, ih, List.flatMap_cons, List.cons_append]

theorem mem_join {separator c : Char} {parts : List (List Char)} (hc : c ∈ join separator parts) :
    c = separator ∨ ∃ part ∈ parts, c ∈ part := by
  cases parts with
  | nil => cases hc
  | cons part rest =>
      rw [join_cons, List.mem_append, List.mem_flatMap] at hc
      rcases hc with hc | ⟨other, hother, hc⟩
      · exact Or.inr ⟨part, List.mem_cons_self, hc⟩
      · rcases List.mem_cons.mp hc with rfl | hc
        · exact Or.inl rfl
        · exact Or.inr ⟨other, List.mem_cons_of_mem part hother, hc⟩

end FeatureFlags.Text

import FeatureFlags.Proofs.Dictionary.Sorted
import Mathlib.Data.List.Forall2
import Mathlib.Data.List.Perm.Basic

/-!
# Entries in any order

The dictionary of a list of entries does not depend on their order as long as no key
occurs twice (`Dictionary.ofList_congr`).  The same goes for a computation on every entry
that may fail: in another order it gives the same results in another order, or it fails
there too (`List.mapM_perm`).
-/

namespace List

variable {α β : Type} {f : α → Option β}

theorem mapM_option_cons (f : α → Option β) (x : α) (xs : List α) :
    (x :: xs).mapM f = (f x).bind fun y => (xs.mapM f).map (y :: ·) := by
  rw [List.mapM_cons]
  cases f x <;> cases xs.mapM f <;> rfl

theorem mapM_eq_some_iff {xs : List α} {ys : List β} :
    xs.mapM f = some ys ↔ Forall₂ (fun x y => f x = some y) xs ys := by
  induction xs generalizing ys with
  | nil => simp [eq_comm]
  | cons x xs ih =>
      rw [mapM_option_cons, forall₂_cons_left_iff]
      simp only [Option.bind_eq_some_iff, Option.map_eq_some_iff, ih]
      grind

theorem Forall₂.exists_of_mem_right {R : α → β → Prop} {xs : List α} {ys : List β}
    (h : Forall₂ R xs ys) {y : β} (hy : y ∈ ys) : ∃ x ∈ xs, R x y := by
  induction h with
  | nil => cases hy
  | cons hhead hrest ih =>
      rcases mem_cons.mp hy with rfl | hy
      · exact ⟨_, mem_cons_self .., hhead⟩
      · obtain ⟨x, hx, hxy⟩ := ih hy
        exact ⟨x, mem_cons_of_mem _ hx, hxy⟩

theorem exists_of_mem_mapM {xs : List α} {ys : List β} (h : xs.mapM f = some ys) {y : β}
    (hy : y ∈ ys) : ∃ x ∈ xs, f x = some y :=
  (mapM_eq_some_iff.mp h).exists_of_mem_right hy

theorem isSome_mapM_iff {xs : List α} : (xs.mapM f).isSome ↔ ∀ x ∈ xs, (f x).isSome := by
  induction xs with
  | nil => simp
  | cons x xs ih =>
      rw [mapM_option_cons, forall_mem_cons, ← ih]
      cases f x <;> simp

theorem exists_of_mapM_eq_none {xs : List α} (h : xs.mapM f = none) : ∃ x ∈ xs, f x = none := by
  have hfails := mt isSome_mapM_iff.mpr (Option.not_isSome_iff_eq_none.mpr h)
  simpa using hfails

/-- The order of the items does not matter to whether a computation fails on one of them. -/
theorem mapM_perm (f : α → Option β) {xs others : List α} (hperm : xs.Perm others) :
    Option.Rel Perm (xs.mapM f) (others.mapM f) := by
  induction hperm with
  | nil => exact .some .nil
  | @cons x xs others hperm ih =>
      rw [mapM_option_cons, mapM_option_cons]
      cases f x with
      | none => exact .none
      | some y =>
          generalize xs.mapM f = ys, others.mapM f = zs at ih
          cases ih with
          | none => exact .none
          | some h => exact .some (h.cons y)
  | swap x y rest =>
      -- one failure fails both sides, so only three successes leave a goal
      simp only [mapM_option_cons]
      cases f x <;> cases f y <;> cases rest.mapM f <;> constructor
      exact .swap ..
  | @trans xs between others hfirst hsecond ihfirst ihsecond =>
      generalize xs.mapM f = ys, between.mapM f = middle, others.mapM f = zs at ihfirst ihsecond ⊢
      cases ihfirst with
      | none => exact ihsecond
      | some h =>
          cases ihsecond with
          | some h' => exact .some (h.trans h')

end List

namespace FeatureFlags.Dictionary

variable {α : Type}

/-- Overlaying with entries of new keys adds them all. -/
theorem extend_perm {base overlay : Dictionary α} (hbase : Sorted base)
    (hkeys : ((base ++ overlay).map (·.1)).Nodup) :
    (extend base overlay).Perm (base ++ overlay) := by
  induction overlay generalizing base with
  | nil => simp [extend]
  | cons entry rest ih =>
      have hnew : ∀ other ∈ base, other.1 ≠ entry.1 := by
        rw [List.map_append, List.map_cons] at hkeys
        intro other hother heq
        exact (List.nodup_append.mp hkeys).2.2 _ (List.mem_map_of_mem hother) _
          (List.mem_cons_self ..) heq
      have hinsert : (insert entry.1 entry.2 base).Perm (entry :: base) := by
        have h := insert_perm hbase entry.1 entry.2
        rwa [erase_of_forall_ne hnew] at h
      have hperm : (insert entry.1 entry.2 base ++ rest).Perm (base ++ entry :: rest) :=
        (hinsert.append_right rest).trans List.perm_middle.symm
      exact (ih (hbase.insert ..) ((hperm.map _).nodup_iff.mpr hkeys)).trans hperm

/-- A dictionary of different keys has the entries it was made of. -/
theorem ofList_perm {entries : List (String × α)} (hkeys : (entries.map (·.1)).Nodup) :
    (ofList entries).Perm entries :=
  extend_perm sorted_nil hkeys

theorem Sorted.eq_of_perm {first second : Dictionary α} (hfirst : Sorted first)
    (hsecond : Sorted second) (hperm : first.Perm second) : first = second :=
  hperm.eq_of_pairwise (fun _ _ _ _ hab hba => absurd hba (String.lt_asymm hab)) hfirst hsecond

/-- The order of the entries does not matter if they have different keys. -/
theorem ofList_congr {entries others : List (String × α)} (hkeys : (entries.map (·.1)).Nodup)
    (hperm : entries.Perm others) : ofList entries = ofList others := by
  have hothers : (others.map (·.1)).Nodup := (hperm.map _).nodup_iff.mp hkeys
  exact (sorted_ofList entries).eq_of_perm (sorted_ofList others)
    (((ofList_perm hkeys).trans hperm).trans (ofList_perm hothers).symm)

end FeatureFlags.Dictionary

/-!
# Lists compared item by item

`List.isEqv` compares two lists item by item.  What is known of the comparison of the items is
carried over to lists here, once for all of the lists that are compared so.  It need be known of
the items of these lists only: where a comparison of trees compares the lists below a node, that
is what an induction on the tree provides.
-/

namespace List

variable {α β : Type} {same : α → α → Bool}

theorem isEqv_map_iff {f : α → α} {xs : List α} :
    xs.isEqv (xs.map f) same = true ↔ ∀ x ∈ xs, same x (f x) = true := by
  induction xs with
  | nil => simp
  | cons x rest ih => simp [List.isEqv, ih]

theorem isEqv_self_iff {xs : List α} :
    xs.isEqv xs same = true ↔ ∀ x ∈ xs, same x x = true := by
  have hmap := @isEqv_map_iff α same id xs
  rwa [List.map_id] at hmap

theorem isEqv_map_left {f : α → α} {xs : List α} (h : ∀ x ∈ xs, ∀ y, same (f x) y = same x y)
    (ys : List α) : (xs.map f).isEqv ys same = xs.isEqv ys same := by
  induction xs generalizing ys with
  | nil => rfl
  | cons x rest ih =>
      obtain ⟨hx, hrest⟩ := List.forall_mem_cons.mp h
      cases ys with
      | nil => rfl
      | cons y ys => rw [List.map_cons, List.isEqv, List.isEqv, hx, ih hrest]

theorem isEqv_map_right {f : α → α} (h : ∀ x y, same x (f y) = same x y) (xs ys : List α) :
    xs.isEqv (ys.map f) same = xs.isEqv ys same := by
  induction xs generalizing ys with
  | nil => cases ys <;> rfl
  | cons x rest ih => cases ys <;> simp [List.isEqv, h, ih]

theorem isEqv_comm {xs : List α} (h : ∀ x ∈ xs, ∀ y, same x y = same y x) (ys : List α) :
    xs.isEqv ys same = ys.isEqv xs same := by
  induction xs generalizing ys with
  | nil => cases ys <;> rfl
  | cons x rest ih =>
      obtain ⟨hx, hrest⟩ := List.forall_mem_cons.mp h
      cases ys with
      | nil => rfl
      | cons y ys => rw [List.isEqv, List.isEqv, hx, ih hrest]

theorem isEqv_trans {xs ys zs : List α}
    (h : ∀ x ∈ xs, ∀ y ∈ ys, ∀ z ∈ zs, same x y = true → same y z = true → same x z = true)
    (hxy : xs.isEqv ys same = true) (hyz : ys.isEqv zs same = true) :
    xs.isEqv zs same = true := by
  induction xs generalizing ys zs with
  | nil =>
      cases ys with
      | nil => exact hyz
      | cons y ys => cases hxy
  | cons x xs ih =>
      cases ys with
      | nil => cases hxy
      | cons y ys =>
          cases zs with
          | nil => cases hyz
          | cons z zs =>
              rw [List.isEqv, Bool.and_eq_true] at hxy hyz ⊢
              have hhead := h x (mem_cons_self ..) y (mem_cons_self ..) z (mem_cons_self ..)
              refine ⟨hhead hxy.1 hyz.1, ih (fun x hx y hy z hz => ?_) hxy.2 hyz.2⟩
              exact h x (mem_cons_of_mem _ hx) y (mem_cons_of_mem _ hy) z (mem_cons_of_mem _ hz)

/-- Whatever is the same for items that are the same is the same along the lists. -/
theorem map_eq_of_isEqv {f : α → β} {xs ys : List α}
    (h : ∀ x ∈ xs, ∀ y ∈ ys, same x y = true → f x = f y) (hxy : xs.isEqv ys same = true) :
    xs.map f = ys.map f := by
  induction xs generalizing ys with
  | nil =>
      cases ys with
      | nil => rfl
      | cons y ys => cases hxy
  | cons x xs ih =>
      cases ys with
      | nil => cases hxy
      | cons y ys =>
          rw [List.isEqv, Bool.and_eq_true] at hxy
          have hhead := h x (mem_cons_self ..) y (mem_cons_self ..) hxy.1
          have hrest := ih (fun x hx y hy => h x (mem_cons_of_mem _ hx) y (mem_cons_of_mem _ hy))
            hxy.2
          rw [List.map_cons, List.map_cons, hhead, hrest]

@[simp]
theorem isEqv_decide_eq [DecidableEq α] (xs ys : List α) :
    xs.isEqv ys (fun a b => decide (a = b)) = decide (xs = ys) := by
  induction xs generalizing ys with
  | nil => cases ys <;> simp [List.isEqv]
  | cons x rest ih => cases ys <;> simp [List.isEqv, ih]

end List

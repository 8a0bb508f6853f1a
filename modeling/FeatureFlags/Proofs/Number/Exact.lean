import FeatureFlags.Number.Arithmetic
import FeatureFlags.Proofs.Number.Order
import Mathlib.Algebra.Order.Round
import Mathlib.Data.List.Induction
import Mathlib.Data.Rat.Floor
import Mathlib.Tactic.Linarith

/-!
# Exact arithmetic

Numbers that stand for rationals are compared as these, and exact arithmetic computes with
them.  Zero has two numbers, so the laws are about the rational that a result stands for and
not about the result itself.
-/

namespace FeatureFlags.Number

variable {x y : Number} {p q : ℚ}

/-! ## Order -/

section Order

variable {P Q : WithBot (WithTop ℚ)}

theorem le_iff_of_position? (hx : x.position? = some P) (hy : y.position? = some Q) :
    le x y = true ↔ P ≤ Q := by
  simp [le_iff, hx, hy]

theorem lt_iff_of_position? (hx : x.position? = some P) (hy : y.position? = some Q) :
    lt x y = true ↔ P < Q := by
  simp [lt_iff, hx, hy]

/-- Only "not a number" is nowhere. -/
theorem position?_eq_none_iff : x.position? = none ↔ x.isNan = true := by
  cases x <;> simp [position?, isNan]

theorem isFinite_iff_position? :
    x.isFinite = true ↔ ∃ p, x.position? = some p ∧ ⊥ < p ∧ p < ⊤ := by
  rcases x with p | _ | (_ | _) | _ <;>
    simp [isFinite, toRat?, position?, bot_lt_point, point_lt_top]

end Order

theorem position?_of_toRat? (h : x.toRat? = some p) : x.position? = some (point p) := by
  cases x <;> cases h <;> rfl

theorem le_iff_of_toRat? (hx : x.toRat? = some p) (hy : y.toRat? = some q) :
    le x y = true ↔ p ≤ q :=
  (le_iff_of_position? (position?_of_toRat? hx) (position?_of_toRat? hy)).trans point_le_point

theorem lt_iff_of_toRat? (hx : x.toRat? = some p) (hy : y.toRat? = some q) :
    lt x y = true ↔ p < q :=
  (lt_iff_of_position? (position?_of_toRat? hx) (position?_of_toRat? hy)).trans point_lt_point

/-- A number between rationals is one. -/
theorem isFinite_of_between (hx : x.toRat? = some p) (hy : y.toRat? = some q) {z : Number}
    (hle : le x z = true) (hle' : le z y = true) : z.isFinite = true := by
  obtain ⟨_, r, hlow, hr, hle⟩ := le_iff.mp hle
  obtain ⟨_, _, hr', hhigh, hle'⟩ := le_iff.mp hle'
  cases hlow.symm.trans (position?_of_toRat? hx)
  cases hr.symm.trans hr'
  cases hhigh.symm.trans (position?_of_toRat? hy)
  exact isFinite_iff_position?.mpr
    ⟨r, hr, (bot_lt_point p).trans_le hle, hle'.trans_lt (point_lt_top q)⟩

/-! ## Operations -/

theorem toRat?_neg (hx : x.toRat? = some p) : x.neg.toRat? = some (-p) := by
  cases x with
  | finite value =>
      cases hx
      by_cases hp : p = 0 <;> simp [neg, hp, toRat?]
  | negativeZero =>
      cases hx
      simp [neg, toRat?]
  | infinity negative => cases hx
  | nan => cases hx

namespace Arithmetic

theorem toRat?_add (hx : x.toRat? = some p) (hy : y.toRat? = some q) :
    (exact.add x y).toRat? = some (p + q) := by
  cases x <;> cases hx <;> cases y <;> cases hy <;> simp [add, round, toRat?]

theorem toRat?_sub (hx : x.toRat? = some p) (hy : y.toRat? = some q) :
    (exact.sub x y).toRat? = some (p - q) := by
  rw [sub, sub_eq_add_neg]
  exact toRat?_add hx (toRat?_neg hy)

theorem toRat?_roundSigned (negative : Bool) (q : ℚ) :
    (exact.roundSigned negative q).toRat? = some q := by
  unfold roundSigned
  split
  · rename_i hq
    cases negative <;> simp [signedZero, toRat?, hq]
  · rfl

theorem toRat?_mul (hx : x.toRat? = some p) (hy : y.toRat? = some q) :
    (exact.mul x y).toRat? = some (p * q) := by
  simp only [mul, hx, hy, toRat?_roundSigned]

theorem toRat?_div (hx : x.toRat? = some p) (hy : y.toRat? = some q) (hq : q ≠ 0) :
    (exact.div x y).toRat? = some (p / q) := by
  simp only [div, hx, hy, if_neg hq, toRat?_roundSigned]

theorem isFinite_of_add (h : (exact.add x y).isFinite = true) :
    x.isFinite = true ∧ y.isFinite = true := by
  rcases x with _ | _ | (_ | _) | _ <;> rcases y with _ | _ | (_ | _) | _ <;>
    first | exact ⟨rfl, rfl⟩ | cases h

/-- Rationals are added up to their sum. -/
theorem toRat?_sum {xs : List Number} {amounts : List ℚ}
    (h : List.Forall₂ (fun x p => x.toRat? = some p) xs amounts) :
    (exact.sum xs).toRat? = some amounts.sum := by
  have hfold {total : Number} {t : ℚ} (htotal : total.toRat? = some t) :
      (xs.foldl exact.add total).toRat? = some (t + amounts.sum) := by
    induction h generalizing total t with
    | nil => simpa using htotal
    | cons hfirst _ ih =>
        rw [List.foldl_cons, List.sum_cons, ← add_assoc]
        exact ih (toRat?_add htotal hfirst)
  have hsum := hfold (show (finite 0).toRat? = some 0 from rfl)
  rwa [zero_add] at hsum

/-- A finite sum has finite terms only. -/
theorem isFinite_of_sum {xs : List Number} (h : (exact.sum xs).isFinite = true) :
    ∀ x ∈ xs, x.isFinite = true := by
  unfold sum at h
  generalize finite 0 = total at h
  induction xs using List.reverseRecOn with
  | nil => nofun
  | append_singleton xs last ih =>
      rw [List.foldl_concat] at h
      obtain ⟨htotal, hlast⟩ := isFinite_of_add h
      intro x hx
      rcases List.mem_append.mp hx with hmem | hmem
      · exact ih htotal x hmem
      · rw [List.mem_singleton.mp hmem]
        exact hlast

end Arithmetic

/-- From zero up, a half going away from zero is a half going up. -/
theorem toRat?_roundHalfAway (hx : x.toRat? = some p) (hp : 0 ≤ p) :
    x.roundHalfAway.toRat? = some (round p : ℚ) := by
  cases x with
  | finite value =>
      cases hx
      rw [roundHalfAway, if_neg (not_lt.mpr hp), round_eq]
      rfl
  | negativeZero =>
      cases hx
      simp [roundHalfAway, toRat?]
  | infinity negative => cases hx
  | nan => cases hx

end FeatureFlags.Number

import FeatureFlags.Number
import Mathlib.Algebra.Order.Ring.Rat
import Mathlib.Order.Compare
import Mathlib.Order.WithBot

/-!
# The order of numbers

Numbers are compared as points of the line of rationals with its two ends, on which the two zeros
are one point and "not a number" is nowhere (`Number.position?`).  What is known about the order
of the line then holds for numbers.
-/

namespace FeatureFlags.Number

/-- A rational as a point of the line. -/
def point (value : ℚ) : WithBot (WithTop ℚ) := (value : WithTop ℚ)

theorem point_lt_point {p q : ℚ} : point p < point q ↔ p < q :=
  WithBot.coe_lt_coe.trans WithTop.coe_lt_coe

theorem point_le_point {p q : ℚ} : point p ≤ point q ↔ p ≤ q :=
  WithBot.coe_le_coe.trans WithTop.coe_le_coe

theorem point_lt_top (p : ℚ) : point p < ⊤ := WithBot.coe_lt_coe.mpr (WithTop.coe_lt_top p)

theorem bot_lt_point (p : ℚ) : ⊥ < point p := WithBot.bot_lt_coe _

/-- Where a number stands on the line of rationals with its two ends. -/
def position? : Number → Option (WithBot (WithTop ℚ))
  | finite value => some (point value)
  | negativeZero => some (point 0)
  | infinity negative => some (bif negative then ⊥ else ⊤)
  | nan => none

theorem lt_iff {x y : Number} :
    lt x y = true ↔ ∃ p q, x.position? = some p ∧ y.position? = some q ∧ p < q := by
  rcases x with p | _ | (_ | _) | _ <;> rcases y with q | _ | (_ | _) | _ <;>
    simp [lt, compare?, position?, toRat?, point_lt_point, point_lt_top, bot_lt_point] <;>
    grind

theorem le_iff {x y : Number} :
    le x y = true ↔ ∃ p q, x.position? = some p ∧ y.position? = some q ∧ p ≤ q := by
  rcases x with p | _ | (_ | _) | _ <;> rcases y with q | _ | (_ | _) | _ <;>
    simp [le, compare?, position?, toRat?, point_le_point, (point_lt_top _).ne,
      (bot_lt_point _).ne'] <;>
    grind

theorem le_of_lt {x y : Number} (h : lt x y = true) : le x y = true := by
  obtain ⟨p, q, hp, hq, hlt⟩ := lt_iff.mp h
  exact le_iff.mpr ⟨p, q, hp, hq, hlt.le⟩

/-- Numbers compare as their places on the line do, and not at all if one of them is
nowhere. -/
theorem compare?_eq_cmp (x y : Number) :
    compare? x y = x.position?.bind fun p => y.position?.map fun q => cmp p q := by
  unfold cmp cmpUsing
  rcases x with p | _ | (_ | _) | _ <;> rcases y with q | _ | (_ | _) | _ <;>
    simp [compare?, position?, toRat?, point_lt_point, point_lt_top, bot_lt_point] <;>
    grind

theorem compare?_swap (x y : Number) : compare? y x = (compare? x y).map Ordering.swap := by
  rw [compare?_eq_cmp, compare?_eq_cmp]
  cases x.position? with
  | none => cases y.position? <;> rfl
  | some p =>
      cases y.position? with
      | none => rfl
      | some q => exact congrArg some (cmp_swap p q).symm

theorem compare?_self {x : Number} (hx : x ≠ nan) : compare? x x = some .eq := by
  have hself (p : WithBot (WithTop ℚ)) : some (cmp p p) = some .eq :=
    congrArg some (cmp_self_eq_eq p)
  rw [compare?_eq_cmp]
  cases x with
  | nan => exact absurd rfl hx
  | _ => exact hself _

theorem compare?_eq_none_iff {x y : Number} : compare? x y = none ↔ x = nan ∨ y = nan := by
  rcases x with p | _ | a | _ <;> rcases y with q | _ | b | _ <;> simp [compare?]

end FeatureFlags.Number

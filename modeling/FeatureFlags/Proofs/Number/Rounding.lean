import FeatureFlags.Number.Arithmetic
import Mathlib.Algebra.Order.Field.Power
import Mathlib.Data.Rat.Floor
import Mathlib.Tactic.FieldSimp
import Mathlib.Tactic.Linarith
import Mathlib.Tactic.NormNum
import Mathlib.Tactic.Positivity

/-!
# Rounding to doubles

A double is a multiple of a power of two with at most 53 binary digits, and the power is
not below `2 ^ -1074` (`IsRepresentable`).  What is rounded to the spacing at a rational
has this form, since the spacing leaves 53 digits before the point.  And a number of this
form is a multiple of the spacing at itself, so that it is rounded to itself.  The one
case to look at is a significand of `2 ^ 53`, which has a digit too many and belongs to
the next power of two.

So rounding a second time changes nothing: a finite result of rounding is a double
(`isDouble_nearestDouble`).
-/

namespace FeatureFlags.Number

variable {q r : ℚ}

/-! ## The spacing of doubles -/

/-- A positive natural number lies between two neighbouring powers of two. -/
theorem log2_bounds {n : ℕ} (hn : n ≠ 0) :
    (2 : ℚ) ^ (n.log2 : ℤ) ≤ n ∧ (n : ℚ) < (2 : ℚ) ^ ((n.log2 : ℤ) + 1) := by
  constructor
  · have hlow : 2 ^ n.log2 ≤ n := Nat.log2_self_le hn
    rw [zpow_natCast]
    exact_mod_cast hlow
  · have hhigh : n < 2 ^ (n.log2 + 1) := Nat.lt_log2_self
    have hcast : ((n.log2 : ℤ) + 1) = ((n.log2 + 1 : ℕ) : ℤ) := by push_cast; rfl
    rw [hcast, zpow_natCast]
    exact_mod_cast hhigh

/-- **A positive rational lies between two neighbouring powers of two.** -/
theorem floorLog2_bounds (hq : 0 < q) :
    (2 : ℚ) ^ floorLog2 q ≤ q ∧ q < (2 : ℚ) ^ (floorLog2 q + 1) := by
  have hnum : q.num.natAbs ≠ 0 := by
    have hpos : 0 < q.num := Rat.num_pos.mpr hq
    omega
  obtain ⟨hnumLow, hnumHigh⟩ := log2_bounds hnum
  obtain ⟨hdenLow, hdenHigh⟩ := log2_bounds q.den_nz
  have hden : (0 : ℚ) < q.den := by exact_mod_cast q.den_pos
  have hquotient : q = (q.num.natAbs : ℚ) / q.den := by
    have hcast : ((q.num.natAbs : ℤ) : ℚ) = (q.num : ℚ) := by
      rw [Int.natAbs_of_nonneg (Rat.num_pos.mpr hq).le]
    rw [Int.cast_natCast] at hcast
    rw [hcast, Rat.num_div_den]
  generalize hn : q.num.natAbs = n at *
  generalize hd : q.den = d at *
  -- the estimate from the lengths of numerator and denominator is one too high at most
  have hlow : (2 : ℚ) ^ ((n.log2 : ℤ) - d.log2 - 1) ≤ q := by
    rw [hquotient, le_div_iff₀ hden]
    calc (2 : ℚ) ^ ((n.log2 : ℤ) - d.log2 - 1) * d
        ≤ (2 : ℚ) ^ ((n.log2 : ℤ) - d.log2 - 1) * (2 : ℚ) ^ ((d.log2 : ℤ) + 1) :=
          mul_le_mul_of_nonneg_left hdenHigh.le (zpow_pos two_pos _).le
      _ = (2 : ℚ) ^ (n.log2 : ℤ) := by
          rw [← zpow_add₀ two_ne_zero]
          congr 1
          omega
      _ ≤ n := hnumLow
  have hhigh : q < (2 : ℚ) ^ ((n.log2 : ℤ) - d.log2 + 1) := by
    rw [hquotient, div_lt_iff₀ hden]
    calc (n : ℚ) < (2 : ℚ) ^ ((n.log2 : ℤ) + 1) := hnumHigh
      _ = (2 : ℚ) ^ ((n.log2 : ℤ) - d.log2 + 1) * (2 : ℚ) ^ (d.log2 : ℤ) := by
          rw [← zpow_add₀ two_ne_zero]
          congr 1
          omega
      _ ≤ (2 : ℚ) ^ ((n.log2 : ℤ) - d.log2 + 1) * d :=
          mul_le_mul_of_nonneg_left hdenLow (zpow_pos two_pos _).le
  -- whether it is too high is tested
  unfold floorLog2
  simp only [hn, hd]
  split
  · rename_i hestimate
    exact ⟨hestimate, hhigh⟩
  · rename_i hestimate
    refine ⟨hlow, ?_⟩
    rw [sub_add_cancel]
    exact not_le.mp hestimate

/-- The exponent of the spacing at a positive rational. -/
def spacingExponent (q : ℚ) : ℤ := Max.max (floorLog2 q - 52) (-1074)

theorem spacing_eq (q : ℚ) : spacing q = (2 : ℚ) ^ spacingExponent q := rfl

theorem spacing_pos (q : ℚ) : 0 < spacing q := zpow_pos two_pos _

/-! ## The nearest integer -/

theorem nearestEven_eq (q : ℚ) : nearestEven q = q.floor ∨ nearestEven q = q.floor + 1 := by
  unfold nearestEven
  dsimp only
  split
  · exact Or.inl rfl
  · split
    · exact Or.inr rfl
    · split
      · exact Or.inl rfl
      · exact Or.inr rfl

theorem nearestEven_intCast (n : ℤ) : nearestEven (n : ℚ) = n := by
  have hfloor : (n : ℚ).floor = n := Rat.floor_intCast n
  simp [nearestEven, hfloor]

theorem floor_le_nearestEven (q : ℚ) : q.floor ≤ nearestEven q := by
  rcases nearestEven_eq q with h | h <;> omega

theorem nearestEven_le (q : ℚ) : (nearestEven q : ℚ) ≤ q + 1 := by
  have hfloor : (q.floor : ℚ) ≤ q := Rat.floor_le q
  rcases nearestEven_eq q with h | h
  · rw [h]
    linarith
  · rw [h]
    push_cast
    linarith

theorem nearestEven_le_of_lt {n : ℤ} (h : q < n) : nearestEven q ≤ n := by
  have hfloor : q.floor < n := Rat.floor_lt_iff.mpr h
  rcases nearestEven_eq q with heq | heq <;> omega

/-! ## What can be represented -/

/-- At most 53 binary digits at a place that is not too low. -/
def IsRepresentable (q : ℚ) : Prop :=
  ∃ (m : ℕ) (e : ℤ), q = m * (2 : ℚ) ^ e ∧ m ≤ 2 ^ 53 ∧ -1074 ≤ e

/-- The number of spacings that make up the nearest multiple. -/
theorem nearestEven_div_spacing_nonneg (hq : 0 < q) : 0 ≤ nearestEven (q / spacing q) := by
  have hquotient : 0 ≤ q / spacing q := (div_pos hq (spacing_pos q)).le
  have hfloor : 0 ≤ (q / spacing q).floor := Rat.le_floor_iff.mpr (by exact_mod_cast hquotient)
  exact hfloor.trans (floor_le_nearestEven _)

theorem nearestMultiple_nonneg (hq : 0 < q) : 0 ≤ nearestMultiple q :=
  mul_nonneg (by exact_mod_cast nearestEven_div_spacing_nonneg hq) (spacing_pos q).le

/-- The spacing leaves at most 53 digits before the point. -/
theorem div_spacing_lt (hq : 0 < q) : q / spacing q < ((2 ^ 53 : ℤ) : ℚ) := by
  rw [div_lt_iff₀ (spacing_pos q), spacing_eq]
  have hexponent : floorLog2 q + 1 ≤ 53 + spacingExponent q := by
    unfold spacingExponent
    omega
  calc q < (2 : ℚ) ^ (floorLog2 q + 1) := (floorLog2_bounds hq).2
    _ ≤ (2 : ℚ) ^ (53 + spacingExponent q) := zpow_le_zpow_right₀ one_le_two hexponent
    _ = ((2 ^ 53 : ℤ) : ℚ) * (2 : ℚ) ^ spacingExponent q := by
        rw [zpow_add₀ two_ne_zero]
        norm_num

theorem isRepresentable_nearestMultiple (hq : 0 < q) : IsRepresentable (nearestMultiple q) := by
  have hnonneg : 0 ≤ nearestEven (q / spacing q) := nearestEven_div_spacing_nonneg hq
  have hmost : nearestEven (q / spacing q) ≤ 2 ^ 53 := nearestEven_le_of_lt (div_spacing_lt hq)
  refine ⟨(nearestEven (q / spacing q)).toNat, spacingExponent q, ?_, by omega, ?_⟩
  · have hcast : ((nearestEven (q / spacing q)).toNat : ℚ) = nearestEven (q / spacing q) := by
      exact_mod_cast Int.toNat_of_nonneg hnonneg
    rw [hcast, ← spacing_eq]
    rfl
  · unfold spacingExponent
    omega

/-- A multiple of the spacing is rounded to itself. -/
theorem nearestMultiple_of_multiple {n : ℤ} (h : q = n * (2 : ℚ) ^ spacingExponent q) :
    nearestMultiple q = q := by
  have hquotient : q / spacing q = n := by
    rw [div_eq_iff (spacing_pos q).ne', spacing_eq]
    exact h
  rw [nearestMultiple, hquotient, nearestEven_intCast, spacing_eq]
  exact h.symm

/-- **What can be represented is rounded to itself.** -/
theorem nearestMultiple_of_isRepresentable (hq : 0 < q) (h : IsRepresentable q) :
    nearestMultiple q = q := by
  obtain ⟨m, e, heq, hm, he⟩ := h
  by_cases hexponent : spacingExponent q ≤ e
  · -- the spacing divides the power of two
    refine nearestMultiple_of_multiple (n := m * 2 ^ (e - spacingExponent q).toNat) ?_
    have hpower : ((2 : ℚ) ^ (e - spacingExponent q).toNat) * (2 : ℚ) ^ spacingExponent q =
        (2 : ℚ) ^ e := by
      rw [← zpow_natCast, Int.toNat_of_nonneg (by omega), ← zpow_add₀ two_ne_zero, sub_add_cancel]
    push_cast
    rw [mul_assoc, hpower]
    exact heq
  · -- the significand has a digit too many, so it is `2 ^ 53`
    have hspacing : spacingExponent q = floorLog2 q - 52 := by
      unfold spacingExponent at hexponent ⊢
      omega
    have hmost : q ≤ (2 : ℚ) ^ (e + 53) := by
      calc q = m * (2 : ℚ) ^ e := heq
        _ ≤ ((2 ^ 53 : ℕ) : ℚ) * (2 : ℚ) ^ e :=
            mul_le_mul_of_nonneg_right (by exact_mod_cast hm) (zpow_pos two_pos e).le
        _ = (2 : ℚ) ^ (e + 53) := by
            rw [zpow_add₀ two_ne_zero, mul_comm]
            norm_num
    have hleast : (2 : ℚ) ^ (e + 53) ≤ q :=
      (zpow_le_zpow_right₀ one_le_two (by omega)).trans (floorLog2_bounds hq).1
    have hpower : q = (2 : ℚ) ^ (e + 53) := le_antisymm hmost hleast
    have hlog : floorLog2 q = e + 53 := by
      have hlow : (2 : ℚ) ^ floorLog2 q ≤ (2 : ℚ) ^ (e + 53) := hpower ▸ (floorLog2_bounds hq).1
      have hle : floorLog2 q ≤ e + 53 := (zpow_le_zpow_iff_right₀ (by norm_num)).mp hlow
      omega
    refine nearestMultiple_of_multiple (n := 2 ^ 52) ?_
    rw [hspacing, hlog]
    calc q = (2 : ℚ) ^ (52 + (e + 53 - 52)) := by
          rw [hpower]
          congr 1
          omega
      _ = ((2 ^ 52 : ℤ) : ℚ) * (2 : ℚ) ^ (e + 53 - 52) := by
          rw [zpow_add₀ two_ne_zero]
          norm_num

/-! ## How far rounding goes -/

/-- Rounding adds at most one spacing. -/
theorem nearestMultiple_le (hq : 0 < q) : nearestMultiple q ≤ q + q / 2 ^ 52 + 1 := by
  have hspacing : spacing q ≤ q / 2 ^ 52 + 1 := by
    rw [spacing_eq]
    -- the spacing is the least one, or one part in `2 ^ 52` of the power below `q`
    rcases le_total (floorLog2 q - 52) (-1074) with hle | hle
    · have hexponent : spacingExponent q = -1074 := max_eq_right hle
      have hsmall : (2 : ℚ) ^ (-1074 : ℤ) ≤ 1 := zpow_le_one_of_nonpos₀ (by norm_num) (by norm_num)
      have hpos : 0 ≤ q / 2 ^ 52 := by positivity
      rw [hexponent]
      linarith
    · have hexponent : spacingExponent q = floorLog2 q - 52 := max_eq_left hle
      have hpower : (2 : ℚ) ^ (floorLog2 q - 52) = (2 : ℚ) ^ floorLog2 q / 2 ^ 52 := by
        rw [zpow_sub₀ (by norm_num)]
        norm_num
      have hlow : (2 : ℚ) ^ floorLog2 q / 2 ^ 52 ≤ q / 2 ^ 52 :=
        div_le_div_of_nonneg_right (floorLog2_bounds hq).1 (by positivity)
      rw [hexponent, hpower]
      linarith
  calc nearestMultiple q
      ≤ (q / spacing q + 1) * spacing q :=
        mul_le_mul_of_nonneg_right (nearestEven_le _) (spacing_pos q).le
    _ = q + spacing q := by
        rw [add_mul, div_mul_cancel₀ _ (spacing_pos q).ne', one_mul]
    _ ≤ q + q / 2 ^ 52 + 1 := by linarith

/-- Rounding does not go below a power of two. -/
theorem two_zpow_le_nearestMultiple {k : ℤ} (hk : -1074 ≤ k) (hq : (2 : ℚ) ^ k ≤ q) :
    (2 : ℚ) ^ k ≤ nearestMultiple q := by
  have hpos : 0 < q := (zpow_pos two_pos k).trans_le hq
  have hlog : k ≤ floorLog2 q := by
    have hlt : (2 : ℚ) ^ k < (2 : ℚ) ^ (floorLog2 q + 1) := hq.trans_lt (floorLog2_bounds hpos).2
    have hexponent : k < floorLog2 q + 1 := (zpow_lt_zpow_iff_right₀ (by norm_num)).mp hlt
    omega
  have hexponent : spacingExponent q ≤ floorLog2 q := by
    unfold spacingExponent
    omega
  -- the power of two below the rational is a multiple of the spacing
  have hfloor : (2 : ℤ) ^ (floorLog2 q - spacingExponent q).toNat ≤ (q / spacing q).floor := by
    rw [Rat.le_floor_iff, le_div_iff₀ (spacing_pos q), spacing_eq]
    push_cast
    rw [← zpow_natCast, Int.toNat_of_nonneg (by omega), ← zpow_add₀ two_ne_zero, sub_add_cancel]
    exact (floorLog2_bounds hpos).1
  have hnearest := hfloor.trans (floor_le_nearestEven _)
  calc (2 : ℚ) ^ k ≤ (2 : ℚ) ^ floorLog2 q := zpow_le_zpow_right₀ one_le_two hlog
    _ = ((2 ^ (floorLog2 q - spacingExponent q).toNat : ℤ) : ℚ) * spacing q := by
        push_cast
        rw [spacing_eq, ← zpow_natCast, Int.toNat_of_nonneg (by omega), ← zpow_add₀ two_ne_zero,
          sub_add_cancel]
    _ ≤ nearestMultiple q :=
        mul_le_mul_of_nonneg_right (by exact_mod_cast hnearest) (spacing_pos q).le

/-- Rounding does not go above a power of two. -/
theorem nearestMultiple_le_two_zpow {k : ℤ} (hpos : 0 < q) (hk : -1074 ≤ k)
    (hq : q ≤ (2 : ℚ) ^ k) : nearestMultiple q ≤ (2 : ℚ) ^ k := by
  rcases hq.eq_or_lt with heq | hlt
  · have hrepresentable : IsRepresentable q := ⟨1, k, by rw [heq]; norm_num, by norm_num, hk⟩
    rw [nearestMultiple_of_isRepresentable hpos hrepresentable]
    exact hq
  have hlog : floorLog2 q < k :=
    (zpow_lt_zpow_iff_right₀ (by norm_num)).mp ((floorLog2_bounds hpos).1.trans_lt hlt)
  have hexponent : spacingExponent q ≤ k := by
    unfold spacingExponent
    omega
  -- the power of two above the rational is a multiple of the spacing
  have hpower : (2 : ℚ) ^ k =
      ((2 ^ (k - spacingExponent q).toNat : ℤ) : ℚ) * (2 : ℚ) ^ spacingExponent q := by
    push_cast
    rw [← zpow_natCast, Int.toNat_of_nonneg (by omega), ← zpow_add₀ two_ne_zero, sub_add_cancel]
  have hquotient : q / spacing q < ((2 ^ (k - spacingExponent q).toNat : ℤ) : ℚ) := by
    rw [div_lt_iff₀ (spacing_pos q), spacing_eq, ← hpower]
    exact hlt
  have hnearest := nearestEven_le_of_lt hquotient
  rw [hpower]
  exact mul_le_mul_of_nonneg_right (by exact_mod_cast hnearest) (spacing_pos q).le

/-! ## Doubles -/

/-- A number that rounding leaves as it is. -/
def IsDouble (x : Number) : Prop :=
  x = negativeZero ∨ ∃ q, x = finite q ∧ nearestDouble q = finite q

theorem isDouble_negativeZero : IsDouble negativeZero := Or.inl rfl

theorem isDouble_zero : IsDouble (finite 0) := Or.inr ⟨0, rfl, rfl⟩

theorem IsDouble.isFinite {x : Number} (h : x.IsDouble) : x.isFinite = true := by
  rcases h with rfl | ⟨q, rfl, -⟩ <;> rfl

theorem nearestDouble_of_pos (hq : 0 < q) :
    nearestDouble q =
      if overflowBound ≤ nearestMultiple q then infinity false else finite (nearestMultiple q) := by
  have hzero : q ≠ 0 := hq.ne'
  have hsign : ¬q < 0 := not_lt.mpr hq.le
  simp [nearestDouble, hzero, hsign]

/-- Rounding is the same on both sides of zero. -/
theorem nearestDouble_neg (hq : 0 < q) : nearestDouble (-q) = (nearestDouble q).neg := by
  have hzero : -q ≠ 0 := neg_ne_zero.mpr hq.ne'
  have hsign : -q < 0 := neg_lt_zero.mpr hq
  rw [nearestDouble_of_pos hq]
  unfold nearestDouble
  simp only [if_neg hzero, if_pos hsign, neg_neg]
  by_cases hbound : overflowBound ≤ nearestMultiple q
  · simp [hbound, hsign, neg]
  · rw [if_neg hbound, if_neg hbound]
    rfl

/-- A positive rational is rounded to a positive number or to zero, without the sign. -/
theorem nearestDouble_cases (hq : 0 < q) :
    nearestDouble q = infinity false ∨
      nearestDouble q = finite (nearestMultiple q) ∧ nearestMultiple q < overflowBound := by
  rw [nearestDouble_of_pos hq]
  split
  · exact Or.inl rfl
  · rename_i hbound
    exact Or.inr ⟨rfl, not_le.mp hbound⟩

theorem IsDouble.neg {x : Number} (h : x.IsDouble) : x.neg.IsDouble := by
  rcases h with rfl | ⟨q, rfl, hq⟩
  · exact isDouble_zero
  · rcases lt_trichotomy q 0 with hneg | rfl | hpos
    · -- rounding is understood for positive numbers, so the sign is taken off first
      have hopposite := nearestDouble_neg (neg_pos.mpr hneg)
      rw [neg_neg, hq] at hopposite
      have hnegation : (finite q).neg = finite (-q) := by simp [Number.neg, hneg.ne]
      rw [hnegation]
      refine Or.inr ⟨-q, rfl, ?_⟩
      rcases nearestDouble_cases (neg_pos.mpr hneg) with hinfinite | ⟨hfinite, -⟩
      · rw [hinfinite] at hopposite
        cases hopposite
      · rw [hfinite] at hopposite ⊢
        by_cases hzero : nearestMultiple (-q) = 0
        · simp [Number.neg, hzero] at hopposite
        · have hvalue : q = -nearestMultiple (-q) := by
            simpa [Number.neg, hzero] using hopposite
          rw [← neg_eq_iff_eq_neg.mpr hvalue]
    · exact isDouble_negativeZero
    · have hnegation : (finite q).neg = finite (-q) := by simp [Number.neg, hpos.ne']
      rw [hnegation]
      refine Or.inr ⟨-q, rfl, ?_⟩
      rw [nearestDouble_neg hpos, hq, hnegation]

/-- **Rounding a second time changes nothing.** -/
theorem isDouble_nearestDouble (h : (nearestDouble q).isFinite = true) :
    (nearestDouble q).IsDouble := by
  have hpositive {q : ℚ} (hq : 0 < q) (h : (nearestDouble q).isFinite = true) :
      (nearestDouble q).IsDouble := by
    rcases nearestDouble_cases hq with hinfinite | ⟨hfinite, hbound⟩
    · rw [hinfinite] at h
      cases h
    · rw [hfinite]
      rcases (nearestMultiple_nonneg hq).eq_or_lt with hzero | hpos
      · rw [← hzero]
        exact isDouble_zero
      · refine Or.inr ⟨nearestMultiple q, rfl, ?_⟩
        -- the multiple of the spacing is rounded to itself
        have hagain : nearestMultiple (nearestMultiple q) = nearestMultiple q :=
          nearestMultiple_of_isRepresentable hpos (isRepresentable_nearestMultiple hq)
        rw [nearestDouble_of_pos hpos, hagain, if_neg (not_le.mpr hbound)]
  rcases lt_trichotomy q 0 with hneg | rfl | hpos
  · -- below zero, rounding is the mirror image of that above
    have hopposite := nearestDouble_neg (neg_pos.mpr hneg)
    rw [neg_neg] at hopposite
    rw [hopposite] at h ⊢
    have hfinite : (nearestDouble (-q)).isFinite = true := by
      cases hrounded : nearestDouble (-q) with
      | infinity negative =>
          rw [hrounded] at h
          cases h
      | nan =>
          rw [hrounded] at h
          cases h
      | _ => rfl
    exact (hpositive (neg_pos.mpr hneg) hfinite).neg
  · exact isDouble_zero
  · exact hpositive hpos h

/-- There is room for rounding up to the powers of ten that are doubles. -/
theorem rounded_lt_overflowBound (hq : q ≤ 10 ^ 308) : q + q / 2 ^ 52 + 1 < overflowBound := by
  have hlimit : (10 : ℚ) ^ 308 + 10 ^ 308 / 2 ^ 52 + 1 < overflowBound := by decide +kernel
  -- the power of ten is too large to be written out
  generalize (10 : ℚ) ^ 308 = limit at *
  have hshare : q / 2 ^ 52 ≤ limit / 2 ^ 52 := div_le_div_of_nonneg_right hq (by positivity)
  linarith

/-- What is not too large is rounded to a double. -/
theorem nearestDouble_of_le (hq : 0 < q) (hbound : q ≤ 10 ^ 308) :
    nearestDouble q = finite (nearestMultiple q) ∧ (nearestDouble q).IsDouble := by
  have hfinite : nearestDouble q = finite (nearestMultiple q) := by
    rw [nearestDouble_of_pos hq, if_neg]
    exact not_le.mpr ((nearestMultiple_le hq).trans_lt (rounded_lt_overflowBound hbound))
  refine ⟨hfinite, isDouble_nearestDouble ?_⟩
  rw [hfinite]
  rfl

end FeatureFlags.Number

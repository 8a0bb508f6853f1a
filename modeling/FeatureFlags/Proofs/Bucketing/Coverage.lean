import FeatureFlags.Proofs.Bucketing.Ranges
import FeatureFlags.Proofs.Number.Exact

/-!
# Coverage

In exact arithmetic the ranges of weights lie side by side: each begins where the weights before
it end, whatever the coverage, and ends at the latest where the next one begins, since rounding
is monotone.  A greater coverage only moves the ends up to these limits.  So the ranges grow
without overlapping, and a number that has a variation keeps it
(`chooseVariation_of_coverage_le`).

Of the weights this asks only that none is negative.  Weights that are no rationals have no
rational sum and give way to equal weights, as weights with a wrong sum do.
-/

namespace FeatureFlags

open Number (Arithmetic point)

/-! ## Rounding -/

/-- The nearest multiple of a ten-thousandth. -/
def tenThousandth (p : ℚ) : ℚ := (round (p * 10000) : ℚ) / 10000

theorem tenThousandth_mono : Monotone tenThousandth := by
  intro p q hpq
  have hround : round (p * 10000) ≤ round (q * 10000) := by
    rw [round_eq, round_eq]
    exact Int.floor_le_floor (by linarith)
  exact div_le_div_of_nonneg_right (Int.cast_le.mpr hround) (by norm_num)

theorem toRat?_round4 {x : Number} {p : ℚ} (hx : x.toRat? = some p) (hp : 0 ≤ p) :
    (round4 .exact x).toRat? = some (tenThousandth p) := by
  have hscale : (Number.ofNat 10000).toRat? = some 10000 := rfl
  have hscaled := Number.toRat?_roundHalfAway (Arithmetic.toRat?_mul hx hscale)
    (mul_nonneg hp (by norm_num))
  exact Arithmetic.toRat?_div hscaled hscale (by norm_num)

/-! ## Ranges between rationals -/

namespace BucketRange

/-- The range reaches from one rational to another. -/
structure Spans (range : BucketRange) (low high : ℚ) : Prop where
  start_eq : range.start.toRat? = some low
  stop_eq : range.stop.toRat? = some high

namespace Spans

variable {first second : BucketRange} {low high low' high' : ℚ}

theorem contains_iff (h : first.Spans low high) {x : Number} :
    first.contains x = true ↔ ∃ p, x.position? = some p ∧ point low ≤ p ∧ p < point high := by
  rw [BucketRange.contains_iff, Number.position?_of_toRat? h.start_eq,
    Number.position?_of_toRat? h.stop_eq]
  simp

theorem within (h : first.Spans low high) (h' : second.Spans low' high') (hlow : low' ≤ low)
    (hhigh : high ≤ high') : first.Within second := by
  intro x hx
  obtain ⟨p, hp, hle, hlt⟩ := h.contains_iff.mp hx
  refine h'.contains_iff.mpr ⟨p, hp, (Number.point_le_point.mpr hlow).trans hle, ?_⟩
  exact hlt.trans_le (Number.point_le_point.mpr hhigh)

theorem disjoint (h : first.Spans low high) (h' : second.Spans low' high') (hle : high ≤ low') :
    first.Disjoint second := by
  rintro x ⟨hx, hx'⟩
  obtain ⟨p, hp, -, hlt⟩ := h.contains_iff.mp hx
  obtain ⟨q, hq, hle', -⟩ := h'.contains_iff.mp hx'
  cases hp.symm.trans hq
  exact absurd ((Number.point_le_point.mpr hle).trans hle') (not_le.mpr hlt)

end Spans

end BucketRange

/-! ## Ranges of weights -/

/-- A rational that is not negative. -/
def Number.IsWeight (x : Number) : Prop := ∃ q : ℚ, x.toRat? = some q ∧ 0 ≤ q

section Weights

variable {coverage greater start weight : Number} {weights : List Number} {k l a q : ℚ}

/-- The range of one weight. -/
theorem spans_of_weight (hcoverage : coverage.toRat? = some k) (hk : 0 ≤ k)
    (hstart : start.toRat? = some a) (ha : 0 ≤ a) (hweight : weight.toRat? = some q)
    (hq : 0 ≤ q) :
    BucketRange.Spans
      ⟨round4 .exact start,
        round4 .exact (Arithmetic.exact.add start (Arithmetic.exact.mul coverage weight))⟩
      (tenThousandth a) (tenThousandth (a + k * q)) where
  start_eq := toRat?_round4 hstart ha
  stop_eq := toRat?_round4 (Arithmetic.toRat?_add hstart (Arithmetic.toRat?_mul hcoverage hweight))
    (add_nonneg ha (mul_nonneg hk hq))

/-- No range begins before the first one. -/
theorem spans_of_mem_cumulativeRanges (hcoverage : coverage.toRat? = some k) (hk : 0 ≤ k)
    (hstart : start.toRat? = some a) (ha : 0 ≤ a) (hweights : ∀ weight ∈ weights, weight.IsWeight)
    {range : BucketRange} (hrange : range ∈ cumulativeRanges .exact coverage start weights) :
    ∃ low high, range.Spans low high ∧ tenThousandth a ≤ low := by
  induction weights generalizing start a with
  | nil => cases hrange
  | cons weight rest ih =>
      obtain ⟨⟨q, hweight, hq⟩, hweights⟩ := List.forall_mem_cons.mp hweights
      rcases List.mem_cons.mp hrange with rfl | hlater
      · exact ⟨_, _, spans_of_weight hcoverage hk hstart ha hweight hq, le_rfl⟩
      · obtain ⟨low, high, hspans, hle⟩ := ih (Arithmetic.toRat?_add hstart hweight)
          (add_nonneg ha hq) hweights hlater
        exact ⟨low, high, hspans, (tenThousandth_mono (le_add_of_nonneg_right hq)).trans hle⟩

/-- With a coverage of at most one, no range reaches into the next one. -/
theorem disjoint_cumulativeRanges (hcoverage : coverage.toRat? = some k) (hk : 0 ≤ k)
    (hone : k ≤ 1) (hstart : start.toRat? = some a) (ha : 0 ≤ a)
    (hweights : ∀ weight ∈ weights, weight.IsWeight) :
    (cumulativeRanges .exact coverage start weights).Pairwise BucketRange.Disjoint := by
  induction weights generalizing start a with
  | nil => exact .nil
  | cons weight rest ih =>
      obtain ⟨⟨q, hweight, hq⟩, hweights⟩ := List.forall_mem_cons.mp hweights
      have hnext := Arithmetic.toRat?_add hstart hweight
      refine .cons (fun range hrange => ?_) (ih hnext (add_nonneg ha hq) hweights)
      obtain ⟨low, high, hspans, hle⟩ :=
        spans_of_mem_cumulativeRanges hcoverage hk hnext (add_nonneg ha hq) hweights hrange
      refine (spans_of_weight hcoverage hk hstart ha hweight hq).disjoint hspans ?_
      have hstop : a + k * q ≤ a + q := add_le_add_right (mul_le_of_le_one_left hq hone) a
      exact (tenThousandth_mono hstop).trans hle

/-- Ranges grow with the coverage. -/
theorem grows_cumulativeRanges (hcoverage : coverage.toRat? = some k)
    (hgreater : greater.toRat? = some l) (hk : 0 ≤ k) (hkl : k ≤ l)
    (hstart : start.toRat? = some a) (ha : 0 ≤ a)
    (hweights : ∀ weight ∈ weights, weight.IsWeight) :
    List.Forall₂ BucketRange.Within (cumulativeRanges .exact coverage start weights)
      (cumulativeRanges .exact greater start weights) := by
  induction weights generalizing start a with
  | nil => exact .nil
  | cons weight rest ih =>
      obtain ⟨⟨q, hweight, hq⟩, hweights⟩ := List.forall_mem_cons.mp hweights
      refine .cons ?_ (ih (Arithmetic.toRat?_add hstart hweight) (add_nonneg ha hq) hweights)
      refine (spans_of_weight hcoverage hk hstart ha hweight hq).within
        (spans_of_weight hgreater (hk.trans hkl) hstart ha hweight hq) le_rfl ?_
      exact tenThousandth_mono (add_le_add_right (mul_le_mul_of_nonneg_right hkl hq) a)

end Weights

/-! ## Usable weights -/

theorem isWeight_of_isFinite {x : Number} (hfinite : x.isFinite = true)
    (hnonneg : Number.lt x (.ofNat 0) = false) : x.IsWeight := by
  obtain ⟨q, hq⟩ := Option.isSome_iff_exists.mp hfinite
  refine ⟨q, hq, not_lt.mp fun hlt => ?_⟩
  have hzero : (Number.ofNat 0).toRat? = some 0 := rfl
  exact absurd (hnonneg.symm.trans ((Number.lt_iff_of_toRat? hq hzero).mpr hlt)) nofun

theorem isWeight_of_mem_equalWeights {count : Nat} {weight : Number}
    (hweight : weight ∈ equalWeights .exact count) : weight.IsWeight := by
  obtain ⟨hcount, rfl⟩ := List.mem_replicate.mp hweight
  have hpositive : (0 : ℚ) < count := by exact_mod_cast Nat.pos_of_ne_zero hcount
  exact ⟨1 / count, Arithmetic.toRat?_div rfl rfl hpositive.ne', by positivity⟩

/-- The weights that are used are rationals, and none is negative unless one was given. -/
theorem isWeight_of_mem_effectiveWeights {count : Nat} {weights : Option (List Number)}
    (hnonneg : ∀ given, weights = some given →
      ∀ weight ∈ given, Number.lt weight (.ofNat 0) = false) :
    ∀ weight ∈ effectiveWeights .exact count weights, weight.IsWeight := by
  unfold effectiveWeights
  split
  · rename_i given
    dsimp only
    split
    · rename_i hsum
      simp only [Bool.and_eq_true] at hsum
      have hfinite := Number.isFinite_of_between rfl rfl hsum.1.2 hsum.2
      exact fun weight hweight => isWeight_of_isFinite
        (Arithmetic.isFinite_of_sum hfinite weight hweight) (hnonneg given rfl weight hweight)
    · exact fun weight => isWeight_of_mem_equalWeights
  · exact fun weight => isWeight_of_mem_equalWeights

/-! ## Clamped coverages -/

/-- A clamped coverage stands at the point of the unit interval next to the coverage. -/
theorem position?_clampCoverage {coverage : Number} {p : WithBot (WithTop ℚ)}
    (hposition : coverage.position? = some p) :
    (clampCoverage coverage).position? = some (max (point 0) (min p (point 1))) := by
  have hzero : (Number.ofNat 0).position? = some (point 0) := rfl
  have hone : (Number.ofNat 1).position? = some (point 1) := rfl
  have hnan : coverage.isNan = false := by
    rw [← Bool.not_eq_true, ← Number.position?_eq_none_iff, hposition]
    nofun
  unfold clampCoverage
  rw [hnan, Bool.false_or]
  split
  · -- below zero: the minimum is the coverage, the maximum is zero
    rename_i hlow
    have hlt := (Number.lt_iff_of_position? hposition hzero).mp hlow
    rw [hzero, max_eq_left ((min_le_left _ _).trans hlt.le)]
  rename_i hlow
  have hle := not_lt.mp (mt (Number.lt_iff_of_position? hposition hzero).mpr hlow)
  split
  · rename_i hhigh
    have hlt := (Number.lt_iff_of_position? hone hposition).mp hhigh
    rw [hone, min_eq_right hlt.le, max_eq_right (Number.point_le_point.mpr zero_le_one)]
  · rename_i hhigh
    have hle' := not_lt.mp (mt (Number.lt_iff_of_position? hone hposition).mpr hhigh)
    rw [hposition, min_eq_left hle', max_eq_right hle]

/-- The share of each weight that is covered. -/
def coveredShare : Number → ℚ
  | .finite coverage => max 0 (min coverage 1)
  | .negativeZero => 0
  | .infinity negative => if negative then 0 else 1
  | .nan => 0

/-- A clamped coverage stands for the share. -/
theorem toRat?_clampCoverage (coverage : Number) :
    (clampCoverage coverage).toRat? = some (coveredShare coverage) := by
  cases coverage with
  | finite q =>
      have hlow : Number.lt (.finite q) (.ofNat 0) = true ↔ q < 0 :=
        Number.lt_iff_of_toRat? rfl rfl
      have hhigh : Number.lt (.ofNat 1) (.finite q) = true ↔ 1 < q :=
        Number.lt_iff_of_toRat? rfl rfl
      simp only [clampCoverage, Number.isNan, Bool.false_or, hlow, hhigh, coveredShare]
      by_cases hneg : q < 0
      · rw [if_pos hneg, min_eq_left (hneg.le.trans zero_le_one), max_eq_left hneg.le]
        rfl
      by_cases hmore : 1 < q
      · rw [if_neg hneg, if_pos hmore, min_eq_right hmore.le, max_eq_right zero_le_one]
        rfl
      · rw [if_neg hneg, if_neg hmore, min_eq_left (not_lt.mp hmore),
          max_eq_right (not_lt.mp hneg)]
        rfl
  | negativeZero => rfl
  | infinity negative => cases negative <;> rfl
  | nan => rfl

theorem coveredShare_nonneg (coverage : Number) : 0 ≤ coveredShare coverage := by
  cases coverage with
  | finite q => exact le_max_left 0 _
  | infinity negative => cases negative <;> decide
  | negativeZero => exact le_rfl
  | nan => exact le_rfl

theorem coveredShare_le_one (coverage : Number) : coveredShare coverage ≤ 1 := by
  cases coverage with
  | finite q => exact max_le zero_le_one (min_le_right q 1)
  | infinity negative => cases negative <;> decide
  | negativeZero => exact zero_le_one
  | nan => exact zero_le_one

theorem clampCoverage_mono {coverage greater : Number} (hle : Number.le coverage greater = true) :
    Number.le (clampCoverage coverage) (clampCoverage greater) = true := by
  obtain ⟨p, q, hp, hq, hpq⟩ := Number.le_iff.mp hle
  exact Number.le_iff.mpr ⟨_, _, position?_clampCoverage hp, position?_clampCoverage hq,
    max_le_max le_rfl (min_le_min hpq le_rfl)⟩

/-! ## Raising the coverage -/

/-- **A greater coverage keeps everybody's variation.** -/
theorem chooseVariation_of_coverage_le {count : Nat} {weights : Option (List Number)}
    (hnonneg : ∀ given, weights = some given →
      ∀ weight ∈ given, Number.lt weight (.ofNat 0) = false)
    {coverage greater : Number} (hle : Number.le coverage greater = true) {x : Number}
    {variation : Nat}
    (hchosen : chooseVariation x (bucketRanges .exact count coverage weights) = some variation) :
    chooseVariation x (bucketRanges .exact count greater weights) = some variation := by
  have hweights : ∀ weight ∈ effectiveWeights .exact count weights, weight.IsWeight :=
    isWeight_of_mem_effectiveWeights hnonneg
  have hcovered := toRat?_clampCoverage coverage
  have hgreater := toRat?_clampCoverage greater
  have hshares : coveredShare coverage ≤ coveredShare greater :=
    (Number.le_iff_of_toRat? hcovered hgreater).mp (clampCoverage_mono hle)
  exact chooseVariation_of_grows
    (grows_cumulativeRanges hcovered hgreater (coveredShare_nonneg coverage) hshares rfl le_rfl
      hweights)
    (disjoint_cumulativeRanges hgreater (coveredShare_nonneg greater)
      (coveredShare_le_one greater) rfl le_rfl hweights)
    hchosen

end FeatureFlags

import FeatureFlags.Proofs.Bucketing.Coverage
import FeatureFlags.Proofs.Dictionary.Traversal
import Mathlib.Algebra.BigOperators.Group.List.Basic
import Mathlib.Algebra.Order.BigOperators.Group.List
import Mathlib.Data.List.GetD

/-!
# Where the ranges lie

In exact arithmetic the bounds of every range are known without computing the ones before it.
The range of a variation begins where the weights before it end, and reaches as far as the share
that is covered of its own weight; both bounds are then rounded to a ten-thousandth
(`spans_cumulativeRanges`).  All else is read off these two bounds:

* rounding is monotone, so a range ends before the next one begins, and where everything is
  covered just there;
* rounding moves a bound by at most half a ten-thousandth, so a width is off by at most a whole
  one (`abs_widths_sub_le`);
* equal weights add up to one, so that ranges that touch lead from zero to one, and a number of
  the unit interval lies between two neighbouring bounds (`exists_step`).
-/

namespace FeatureFlags

open Number (Arithmetic)

/-! ## Rounding -/

theorem tenThousandth_intCast (n : ℤ) : tenThousandth n = n := by
  have hscaled : (n : ℚ) * 10000 = ((n * 10000 : ℤ) : ℚ) := by push_cast; rfl
  rw [tenThousandth, hscaled, round_intCast]
  push_cast
  exact mul_div_cancel_right₀ _ (by norm_num)

theorem tenThousandth_nonneg {p : ℚ} (hp : 0 ≤ p) : 0 ≤ tenThousandth p := by
  have hzero := tenThousandth_intCast 0
  rw [Int.cast_zero] at hzero
  rw [← hzero]
  exact tenThousandth_mono hp

theorem abs_tenThousandth_sub_le (p : ℚ) : |tenThousandth p - p| ≤ 1 / 20000 := by
  have hround : |p * 10000 - round (p * 10000)| ≤ 1 / 2 := abs_sub_round _
  obtain ⟨hlow, hhigh⟩ := abs_le.mp hround
  unfold tenThousandth
  refine abs_le.mpr ⟨?_, ?_⟩ <;> linarith

/-- Of two rounded bounds the distance is off by at most a ten-thousandth. -/
theorem abs_width_sub_le (p w : ℚ) : |tenThousandth (p + w) - tenThousandth p - w| ≤ 1 / 10000 := by
  obtain ⟨hlow, hhigh⟩ := abs_le.mp (abs_tenThousandth_sub_le p)
  obtain ⟨hlow', hhigh'⟩ := abs_le.mp (abs_tenThousandth_sub_le (p + w))
  refine abs_le.mpr ⟨?_, ?_⟩ <;> linarith

/-! ## The weights in use -/

/-- The rationals that numbers stand for, if all of them do. -/
def amounts? (numbers : List Number) : Option (List ℚ) := numbers.mapM Number.toRat?

theorem amounts?_eq_some_iff {numbers : List Number} {amounts : List ℚ} :
    amounts? numbers = some amounts ↔
      List.Forall₂ (fun x p => x.toRat? = some p) numbers amounts :=
  List.mapM_eq_some_iff

theorem exists_amounts {numbers : List Number} (h : ∀ x ∈ numbers, x.isFinite = true) :
    ∃ amounts, amounts? numbers = some amounts := by
  induction numbers with
  | nil => exact ⟨[], rfl⟩
  | cons x rest ih =>
      obtain ⟨hx, hrest⟩ := List.forall_mem_cons.mp h
      obtain ⟨p, hp⟩ := Option.isSome_iff_exists.mp hx
      obtain ⟨amounts, hamounts⟩ := ih hrest
      refine ⟨p :: amounts, amounts?_eq_some_iff.mpr (.cons hp ?_)⟩
      exact amounts?_eq_some_iff.mp hamounts

/-- There is a weight for each variation, and together they are about one. -/
def AreUsable (count : ℕ) (weights : List ℚ) : Prop :=
  weights.length = count ∧ 99 / 100 ≤ weights.sum ∧ weights.sum ≤ 101 / 100

instance (count : ℕ) (weights : List ℚ) : Decidable (AreUsable count weights) :=
  inferInstanceAs (Decidable (_ ∧ _))

/-- The weights that have been given and can be used. -/
def usableWeights? (count : ℕ) (weights : Option (List Number)) : Option (List ℚ) :=
  (weights.bind amounts?).filter fun amounts => AreUsable count amounts

/-- The same weight for each variation. -/
def equalAmounts (count : ℕ) : List ℚ := List.replicate count (1 / (count : ℚ))

/-- The weights by which the unit interval is divided. -/
def weightsInUse (count : ℕ) (weights : Option (List Number)) : List ℚ :=
  (usableWeights? count weights).getD (equalAmounts count)

theorem amounts?_equalWeights (count : ℕ) :
    amounts? (equalWeights .exact count) = some (equalAmounts count) := by
  rw [amounts?_eq_some_iff, List.forall₂_iff_get]
  refine ⟨by simp [equalWeights, equalAmounts], fun i hi _ => ?_⟩
  have hcount : (count : ℚ) ≠ 0 := by
    rw [equalWeights, List.length_replicate] at hi
    exact_mod_cast (Nat.zero_lt_of_lt hi).ne'
  have hweight : (Arithmetic.exact.div (.ofNat 1) (.ofNat count)).toRat? = some (1 / count : ℚ) :=
    Arithmetic.toRat?_div rfl rfl hcount
  simpa [equalWeights, equalAmounts] using hweight

/-- Whether weights are used is decided by their rationals. -/
theorem effectiveWeights_of_amounts {given : List Number} {amounts : List ℚ}
    (hgiven : amounts? given = some amounts) (count : ℕ) :
    effectiveWeights .exact count (some given) =
      if AreUsable count amounts then given else equalWeights .exact count := by
  have hpairs := amounts?_eq_some_iff.mp hgiven
  have hsum := Arithmetic.toRat?_sum hpairs
  have hleast : Number.le (leastWeightSum .exact) (Arithmetic.exact.sum given) = true ↔
      99 / 100 ≤ amounts.sum := Number.le_iff_of_toRat? rfl hsum
  have hgreatest : Number.le (Arithmetic.exact.sum given) (greatestWeightSum .exact) = true ↔
      amounts.sum ≤ 101 / 100 := Number.le_iff_of_toRat? hsum rfl
  refine if_congr ?_ rfl rfl
  rw [Bool.and_eq_true, Bool.and_eq_true, decide_eq_true_eq, hpairs.length_eq, hleast, hgreatest,
    and_assoc, AreUsable]

/-- Weights among which there is an infinity or "not a number" have no sum between the bounds. -/
theorem effectiveWeights_of_no_amounts {given : List Number} (hgiven : amounts? given = none)
    (count : ℕ) : effectiveWeights .exact count (some given) = equalWeights .exact count := by
  simp only [effectiveWeights]
  refine if_neg fun hsum => ?_
  simp only [Bool.and_eq_true] at hsum
  have hfinite := Number.isFinite_of_between rfl rfl hsum.1.2 hsum.2
  obtain ⟨amounts, hamounts⟩ := exists_amounts (Arithmetic.isFinite_of_sum hfinite)
  rw [hgiven] at hamounts
  cases hamounts

/-- **The ranges divide the interval by the weights in use.** -/
theorem amounts?_effectiveWeights (count : ℕ) (weights : Option (List Number)) :
    amounts? (effectiveWeights .exact count weights) = some (weightsInUse count weights) := by
  cases weights with
  | none => exact amounts?_equalWeights count
  | some given =>
      rw [weightsInUse, usableWeights?, Option.bind_some]
      cases hgiven : amounts? given with
      | none =>
          rw [effectiveWeights_of_no_amounts hgiven]
          exact amounts?_equalWeights count
      | some amounts =>
          rw [effectiveWeights_of_amounts hgiven, Option.filter_some]
          by_cases husable : AreUsable count amounts
          · rw [if_pos husable, if_pos (decide_eq_true husable)]
            exact hgiven
          · rw [if_neg husable, if_neg (by simpa using husable)]
            exact amounts?_equalWeights count

theorem length_weightsInUse (count : ℕ) (weights : Option (List Number)) :
    (weightsInUse count weights).length = count := by
  have hpairs := amounts?_eq_some_iff.mp (amounts?_effectiveWeights count weights)
  rw [← hpairs.length_eq, length_effectiveWeights]

theorem nonneg_of_mem_weightsInUse {count : ℕ} {weights : Option (List Number)}
    (hnonneg : ∀ given, weights = some given →
      ∀ weight ∈ given, Number.lt weight (.ofNat 0) = false) :
    ∀ q ∈ weightsInUse count weights, 0 ≤ q := by
  intro q hq
  obtain ⟨weight, hweight, hvalue⟩ :=
    List.exists_of_mem_mapM (amounts?_effectiveWeights count weights) hq
  obtain ⟨p, hp, hle⟩ := isWeight_of_mem_effectiveWeights hnonneg weight hweight
  rw [hp] at hvalue
  exact (Option.some.inj hvalue) ▸ hle

/-! ## The bounds of the ranges -/

/-- Where the range of a variation begins. -/
def rangeStart (weights : List ℚ) (i : ℕ) : ℚ := tenThousandth (weights.take i).sum

/-- Where the range of a variation ends, if this share of each weight is covered. -/
def rangeStop (share : ℚ) (weights : List ℚ) (i : ℕ) : ℚ :=
  tenThousandth ((weights.take i).sum + share * weights.getD i 0)

section Bounds

variable {weights : List ℚ} {share : ℚ} {i : ℕ}

theorem rangeStart_zero (weights : List ℚ) : rangeStart weights 0 = 0 :=
  tenThousandth_intCast 0

theorem sum_take_succ_getD (hi : i < weights.length) :
    (weights.take (i + 1)).sum = (weights.take i).sum + weights.getD i 0 := by
  rw [List.sum_take_succ weights i hi, List.getD_eq_getElem _ _ hi]

/-- Where everything is covered a range ends where the next one begins. -/
theorem rangeStop_one (hi : i < weights.length) :
    rangeStop 1 weights i = rangeStart weights (i + 1) := by
  rw [rangeStop, rangeStart, one_mul, sum_take_succ_getD hi]

theorem rangeStop_mono {less more : ℚ} (hnonneg : ∀ q ∈ weights, 0 ≤ q) (hle : less ≤ more) :
    rangeStop less weights i ≤ rangeStop more weights i := by
  have hweight : 0 ≤ weights.getD i 0 := by
    by_cases hi : i < weights.length
    · rw [List.getD_eq_getElem _ _ hi]
      exact hnonneg _ (List.getElem_mem hi)
    · rw [List.getD_eq_default _ _ (not_lt.mp hi)]
  exact tenThousandth_mono (add_le_add_right (mul_le_mul_of_nonneg_right hle hweight) _)

theorem rangeStop_zero : rangeStop 0 weights i = rangeStart weights i := by
  rw [rangeStop, rangeStart, zero_mul, add_zero]

theorem rangeStart_nonneg (hnonneg : ∀ q ∈ weights, 0 ≤ q) : 0 ≤ rangeStart weights i :=
  tenThousandth_nonneg (List.sum_nonneg fun q hq => hnonneg q (List.mem_of_mem_take hq))

theorem rangeStart_le_rangeStop (hnonneg : ∀ q ∈ weights, 0 ≤ q) (hshare : 0 ≤ share) :
    rangeStart weights i ≤ rangeStop share weights i := by
  rw [← rangeStop_zero]
  exact rangeStop_mono hnonneg hshare

/-- A range ends before the next one begins. -/
theorem rangeStop_le_rangeStart (hnonneg : ∀ q ∈ weights, 0 ≤ q) (hshare : share ≤ 1)
    (hi : i < weights.length) : rangeStop share weights i ≤ rangeStart weights (i + 1) := by
  rw [← rangeStop_one hi]
  exact rangeStop_mono hnonneg hshare

/-- Equal weights lead to the end of the unit interval. -/
theorem rangeStart_equalAmounts {count : ℕ} (hcount : 0 < count) :
    rangeStart (equalAmounts count) count = 1 := by
  have hne : (count : ℚ) ≠ 0 := by exact_mod_cast hcount.ne'
  have hsum : ((equalAmounts count).take count).sum = ((1 : ℤ) : ℚ) := by
    rw [List.take_of_length_le (by simp [equalAmounts]), equalAmounts, List.sum_replicate,
      nsmul_eq_mul, mul_one_div_cancel hne, Int.cast_one]
  rw [rangeStart, hsum, tenThousandth_intCast, Int.cast_one]

end Bounds

/-- Whatever goes from zero to above a number takes a step over it. -/
theorem exists_step {f : ℕ → ℚ} {p : ℚ} (hlow : f 0 ≤ p) {n : ℕ} (hhigh : p < f n) :
    ∃ i < n, f i ≤ p ∧ p < f (i + 1) := by
  induction n with
  | zero => exact absurd hhigh (not_lt.mpr hlow)
  | succ n ih =>
      by_cases hn : p < f n
      · obtain ⟨i, hi, hstep⟩ := ih hn
        exact ⟨i, hi.trans (Nat.lt_succ_self n), hstep⟩
      · exact ⟨n, Nat.lt_succ_self n, not_lt.mp hn, hhigh⟩

/-! ## The ranges between these bounds -/

section Ranges

variable {coverage start : Number} {numbers : List Number} {amounts : List ℚ} {share a : ℚ}

/-- **The bounds of every range.**  The range of a weight begins behind the weights before it. -/
theorem spans_cumulativeRanges (hcoverage : coverage.toRat? = some share) (hshare : 0 ≤ share)
    (hstart : start.toRat? = some a) (ha : 0 ≤ a)
    (hnumbers : List.Forall₂ (fun x p => x.toRat? = some p) numbers amounts)
    (hnonneg : ∀ q ∈ amounts, 0 ≤ q) {i : ℕ} (hi : i < amounts.length) :
    ∃ range, (cumulativeRanges .exact coverage start numbers)[i]? = some range ∧
      range.Spans (tenThousandth (a + (amounts.take i).sum))
        (tenThousandth (a + (amounts.take i).sum + share * amounts.getD i 0)) := by
  induction hnumbers generalizing start a i with
  | nil => exact absurd hi (Nat.not_lt_zero i)
  | @cons number q rest restAmounts hnumber hrest ih =>
      obtain ⟨hq, hnonneg⟩ := List.forall_mem_cons.mp hnonneg
      cases i with
      | zero =>
          have hspans := spans_of_weight hcoverage hshare hstart ha hnumber hq
          refine ⟨_, rfl, ?_⟩
          simpa using hspans
      | succ i =>
          have hnext := Arithmetic.toRat?_add hstart hnumber
          obtain ⟨range, hrange, hspans⟩ :=
            ih hnext (add_nonneg ha hq) hnonneg (Nat.lt_of_succ_lt_succ hi)
          refine ⟨range, hrange, ?_⟩
          simpa [add_assoc] using hspans

/-- **The error of the total width.**  Each width is off by at most a ten-thousandth. -/
theorem abs_widths_sub_le (hcoverage : coverage.toRat? = some share) (hshare : 0 ≤ share)
    (hstart : start.toRat? = some a) (ha : 0 ≤ a)
    (hnumbers : List.Forall₂ (fun x p => x.toRat? = some p) numbers amounts)
    (hnonneg : ∀ q ∈ amounts, 0 ≤ q) :
    ∃ widths,
      amounts? ((cumulativeRanges .exact coverage start numbers).map (·.width .exact)) =
          some widths ∧
        |widths.sum - share * amounts.sum| ≤ amounts.length * (1 / 10000) := by
  induction hnumbers generalizing start a with
  | nil => exact ⟨[], rfl, by simp⟩
  | @cons number q rest restAmounts hnumber hrest ih =>
      obtain ⟨hq, hnonneg⟩ := List.forall_mem_cons.mp hnonneg
      obtain ⟨widths, hwidths, herror⟩ :=
        ih (Arithmetic.toRat?_add hstart hnumber) (add_nonneg ha hq) hnonneg
      have hspans := spans_of_weight hcoverage hshare hstart ha hnumber hq
      have hwidth := Arithmetic.toRat?_sub hspans.stop_eq hspans.start_eq
      refine ⟨_ :: widths, amounts?_eq_some_iff.mpr (.cons hwidth ?_), ?_⟩
      · exact amounts?_eq_some_iff.mp hwidths
      · obtain ⟨hlow, hhigh⟩ := abs_le.mp herror
        obtain ⟨hlow', hhigh'⟩ := abs_le.mp (abs_width_sub_le a (share * q))
        rw [List.sum_cons, List.sum_cons, List.length_cons, Nat.cast_succ]
        refine abs_le.mpr ⟨?_, ?_⟩ <;> linarith

end Ranges

/-! ## The ranges of the variations -/

section Variations

variable {count : ℕ} {weights : Option (List Number)}
  (hnonneg : ∀ given, weights = some given →
    ∀ weight ∈ given, Number.lt weight (.ofNat 0) = false)
include hnonneg

/-- The range of each variation reaches from the one bound to the other. -/
theorem spans_bucketRanges (coverage : Number) {i : ℕ} (hi : i < count) :
    ∃ range, (bucketRanges .exact count coverage weights)[i]? = some range ∧
      range.Spans (rangeStart (weightsInUse count weights) i)
        (rangeStop (coveredShare coverage) (weightsInUse count weights) i) := by
  have hzero : (Number.ofNat 0).toRat? = some 0 := rfl
  have hused := amounts?_eq_some_iff.mp (amounts?_effectiveWeights count weights)
  rw [← length_weightsInUse count weights] at hi
  obtain ⟨range, hrange, hspans⟩ :=
    spans_cumulativeRanges (toRat?_clampCoverage coverage) (coveredShare_nonneg coverage)
      hzero le_rfl hused (nonneg_of_mem_weightsInUse hnonneg) hi
  rw [zero_add] at hspans
  exact ⟨range, hrange, hspans⟩

theorem disjoint_bucketRanges (coverage : Number) :
    (bucketRanges .exact count coverage weights).Pairwise BucketRange.Disjoint :=
  disjoint_cumulativeRanges (toRat?_clampCoverage coverage) (coveredShare_nonneg coverage)
    (coveredShare_le_one coverage) rfl le_rfl (isWeight_of_mem_effectiveWeights hnonneg)

theorem abs_total_width_sub_le (coverage : Number) :
    ∃ total : ℚ,
      (Arithmetic.exact.sum
        ((bucketRanges .exact count coverage weights).map (·.width .exact))).toRat? =
          some total ∧
        |total - coveredShare coverage * (weightsInUse count weights).sum| ≤
          count * (1 / 10000) := by
  have hzero : (Number.ofNat 0).toRat? = some 0 := rfl
  have hused := amounts?_eq_some_iff.mp (amounts?_effectiveWeights count weights)
  obtain ⟨widths, hwidths, herror⟩ :=
    abs_widths_sub_le (toRat?_clampCoverage coverage) (coveredShare_nonneg coverage)
      hzero le_rfl hused (nonneg_of_mem_weightsInUse hnonneg)
  rw [length_weightsInUse] at herror
  exact ⟨widths.sum, Arithmetic.toRat?_sum (amounts?_eq_some_iff.mp hwidths), herror⟩

/-- Where everything is covered and the weights are equal, nobody is left out. -/
theorem exists_variation {coverage : Number} (hcoverage : coveredShare coverage = 1)
    (hequal : usableWeights? count weights = none) (hcount : 0 < count) {x : Number}
    (hlow : Number.le (.ofNat 0) x = true) (hhigh : Number.lt x (.ofNat 1) = true) :
    ∃ variation,
      chooseVariation x (bucketRanges .exact count coverage weights) = some variation := by
  have hzero : (Number.ofNat 0).toRat? = some 0 := rfl
  have hone : (Number.ofNat 1).toRat? = some 1 := rfl
  have hused : weightsInUse count weights = equalAmounts count := by
    rw [weightsInUse, hequal, Option.getD_none]
  have hlength := length_weightsInUse count weights
  obtain ⟨p, hp⟩ := Option.isSome_iff_exists.mp
    (Number.isFinite_of_between hzero hone hlow (Number.le_of_lt hhigh))
  have hp0 : 0 ≤ p := (Number.le_iff_of_toRat? hzero hp).mp hlow
  have hp1 : p < 1 := (Number.lt_iff_of_toRat? hp hone).mp hhigh
  -- The starts lead from zero to one, so the number lies between two of them.
  obtain ⟨i, hi, hstart, hnext⟩ : ∃ i < count, rangeStart (weightsInUse count weights) i ≤ p ∧
      p < rangeStart (weightsInUse count weights) (i + 1) := by
    refine exists_step ?_ ?_
    · rw [rangeStart_zero]
      exact hp0
    · rw [hused, rangeStart_equalAmounts hcount]
      exact hp1
  obtain ⟨range, hrange, hspans⟩ := spans_bucketRanges hnonneg coverage hi
  rw [hcoverage, rangeStop_one (hlength.symm ▸ hi)] at hspans
  refine ⟨i, (chooseVariation_eq_some_iff (disjoint_bucketRanges hnonneg coverage)).mpr ?_⟩
  refine ⟨range, hrange, hspans.contains_iff.mpr ?_⟩
  exact ⟨_, Number.position?_of_toRat? hp, Number.point_le_point.mpr hstart,
    Number.point_lt_point.mpr hnext⟩

end Variations

/-- **The layout of the ranges.**  In exact arithmetic, and for weights of which none is negative,
there is a range for each variation; the ranges lie in order and have no number in common, so that
the variation of a number is the one whose range contains it.  Rounding costs at most a
ten-thousandth of width for each range.  Where everything is covered neighbours touch, and with
equal weights every number of the unit interval has a variation. -/
theorem bucketRanges_laid_out {count : ℕ} {weights : Option (List Number)}
    (hnonneg : ∀ given, weights = some given →
      ∀ weight ∈ given, Number.lt weight (.ofNat 0) = false)
    (coverage : Number) :
    let ranges := bucketRanges .exact count coverage weights
    let used := weightsInUse count weights
    let share := coveredShare coverage
    ranges.length = count ∧
    (∀ i < count, ∃ range, ranges[i]? = some range ∧
      range.Spans (rangeStart used i) (rangeStop share used i)) ∧
    (∀ i < count, 0 ≤ rangeStart used i ∧ rangeStart used i ≤ rangeStop share used i ∧
      rangeStop share used i ≤ rangeStart used (i + 1)) ∧
    (∀ x variation, chooseVariation x ranges = some variation ↔
      ∃ range, ranges[variation]? = some range ∧ range.contains x = true) ∧
    (∃ total : ℚ,
      (Arithmetic.exact.sum (ranges.map (·.width .exact))).toRat? = some total ∧
        |total - share * used.sum| ≤ count * (1 / 10000)) ∧
    (share = 1 → ∀ i < count, rangeStop share used i = rangeStart used (i + 1)) ∧
    (share = 1 → usableWeights? count weights = none → 0 < count →
      ∀ x, Number.le (.ofNat 0) x = true → Number.lt x (.ofNat 1) = true →
        ∃ variation, chooseVariation x ranges = some variation) := by
  intro ranges used share
  have hlength : used.length = count := length_weightsInUse count weights
  have hused : ∀ q ∈ used, 0 ≤ q := nonneg_of_mem_weightsInUse hnonneg
  refine ⟨length_bucketRanges .exact count coverage weights, ?_, ?_, ?_, ?_, ?_, ?_⟩
  · intro i hi
    exact spans_bucketRanges hnonneg coverage hi
  · intro i hi
    refine ⟨rangeStart_nonneg hused, ?_, ?_⟩
    · exact rangeStart_le_rangeStop hused (coveredShare_nonneg coverage)
    · exact rangeStop_le_rangeStart hused (coveredShare_le_one coverage) (hlength.symm ▸ hi)
  · intro x variation
    exact chooseVariation_eq_some_iff (disjoint_bucketRanges hnonneg coverage)
  · exact abs_total_width_sub_le hnonneg coverage
  · intro hshare i hi
    rw [hshare]
    exact rangeStop_one (hlength.symm ▸ hi)
  · intro hshare hequal hcount x hlow hhigh
    exact exists_variation hnonneg hshare hequal hcount hlow hhigh

/-- Two weights are none for three variations, which share the interval in rounded thirds and leave
nobody out. -/
theorem bucketRanges_of_thirds :
    let weights : Option (List Number) := some [.finite (1 / 4), .finite (3 / 4)]
    let ranges := bucketRanges .exact 3 (.finite 2) weights
    ranges = [⟨.finite 0, .finite (3333 / 10000)⟩, ⟨.finite (3333 / 10000), .finite (6667 / 10000)⟩,
      ⟨.finite (6667 / 10000), .finite 1⟩] ∧
    ∀ x, Number.le (.ofNat 0) x = true → Number.lt x (.ofNat 1) = true →
      ∃ variation, chooseVariation x ranges = some variation := by
  intro weights ranges
  have hnonneg : ∀ given, weights = some given →
      ∀ weight ∈ given, Number.lt weight (.ofNat 0) = false := by
    intro given hgiven
    obtain rfl : [.finite (1 / 4), .finite (3 / 4)] = given := Option.some.inj hgiven
    decide +kernel
  have hshare : coveredShare (.finite 2) = 1 := by decide +kernel
  have hunusable : usableWeights? 3 weights = none := by decide +kernel
  obtain ⟨-, -, -, -, -, -, hcovers⟩ := @bucketRanges_laid_out 3 weights hnonneg (.finite 2)
  exact ⟨by decide +kernel, hcovers hshare hunusable (by decide)⟩

end FeatureFlags

import FeatureFlags.Proofs.Json.Reading
import FeatureFlags.Proofs.Number.Rounding

/-!
# The numbers of what is read

The floats of a draft that is read off a text are doubles, and its integers have 64 bits
(`sound_of_ofBytes?`).  A numeral becomes a float by rounding its digits and then
multiplying with a power of ten or dividing by it, and each of these results is a double.
Only a product can be too large, and then it is refused.
-/

namespace FeatureFlags

open Number (IsDouble nearestDouble overflowBound)

/-! ## Integers -/

/-- An integer of 64 bits is rounded to a double. -/
theorem Json.IsWord64.isDouble {n : Int} (hword : Json.IsWord64 n) :
    (nearestDouble (n : ℚ)).IsDouble := by
  obtain ⟨hlow, hhigh⟩ := hword
  have hlimit : ((0x10000000000000000 : Int) : ℚ) ≤ 10 ^ 308 := by decide +kernel
  rcases lt_trichotomy n 0 with hneg | rfl | hpos
  · have hopposite : (0 : ℚ) < ((-n : Int) : ℚ) := by exact_mod_cast (by omega)
    have hmost : ((-n : Int) : ℚ) ≤ ((0x10000000000000000 : Int) : ℚ) := by
      exact_mod_cast (by omega)
    have hdouble := (Number.nearestDouble_of_le hopposite (hmost.trans hlimit)).2
    have hneg := Number.nearestDouble_neg hopposite
    rw [Int.cast_neg] at hneg hdouble
    rw [neg_neg] at hneg
    rw [hneg]
    exact hdouble.neg
  · exact Number.isDouble_zero
  · have hmost : (n : ℚ) ≤ ((0x10000000000000000 : Int) : ℚ) := by exact_mod_cast hhigh.le
    exact (Number.nearestDouble_of_le (by exact_mod_cast hpos) (hmost.trans hlimit)).2

namespace Json

open Text.Utf8 (Bytes)

/-! ## Floats -/

namespace Numeral

open Number.Arithmetic (binary64)

/-- A power of ten that is multiplied in at once is a double; it is at least one, and at least two
unless it is one. -/
theorem power_eq {n : Nat} (hn : n ≤ largestPower) :
    ∃ r : ℚ, power n = .finite r ∧ 1 ≤ r ∧ (0 < n → 2 ≤ r) := by
  have hone : (2 : ℚ) ^ (0 : ℤ) ≤ ((Nat.pow 10 n : Nat) : ℚ) := by
    have hpower : 1 ≤ Nat.pow 10 n := Nat.one_le_pow n 10 (by decide)
    rw [zpow_zero]
    exact_mod_cast hpower
  -- the largest table entry is still below overflow, so no power is rounded away
  have hmost : ((Nat.pow 10 n : Nat) : ℚ) ≤ 10 ^ 308 := by
    have hpower : ((Nat.pow 10 n : Nat) : ℚ) = (10 : ℚ) ^ n := by
      change ((10 ^ n : Nat) : ℚ) = _
      push_cast
      rfl
    rw [hpower]
    exact pow_le_pow_right₀ (by norm_num) hn
  have hpos : (0 : ℚ) < ((Nat.pow 10 n : Nat) : ℚ) := (zpow_pos two_pos 0).trans_le hone
  refine ⟨_, (Number.nearestDouble_of_le hpos hmost).1, ?_, ?_⟩
  · have hle := Number.two_zpow_le_nearestMultiple (by norm_num) hone
    rwa [zpow_zero] at hle
  · intro hn
    have htwo : (2 : ℚ) ^ (1 : ℤ) ≤ ((Nat.pow 10 n : Nat) : ℚ) := by
      have hpower : 2 ≤ Nat.pow 10 n := by
        calc 2 ≤ 10 ^ 1 := by decide
          _ ≤ Nat.pow 10 n := Nat.pow_le_pow_right (by decide) hn
      rw [zpow_one]
      exact_mod_cast hpower
    have hle := Number.two_zpow_le_nearestMultiple (by norm_num) htwo
    rwa [zpow_one] at hle

/-- A double that is not negative and leaves room for rounding. -/
def IsModerate (x : Number) : Prop :=
  x.IsDouble ∧ ∃ p : ℚ, x = .finite p ∧ 0 ≤ p ∧ p ≤ 2 ^ 70

theorem isModerate_nearestDouble {q : ℚ} (hq : 0 ≤ q) (hmost : q ≤ 2 ^ 69) :
    IsModerate (nearestDouble q) := by
  rcases hq.eq_or_lt with rfl | hpos
  · exact ⟨Number.isDouble_zero, 0, rfl, le_refl _, by positivity⟩
  · have hlimit : (2 : ℚ) ^ 69 ≤ 10 ^ 308 := by decide +kernel
    obtain ⟨hfinite, hdouble⟩ := Number.nearestDouble_of_le hpos (hmost.trans hlimit)
    refine ⟨hdouble, _, hfinite, Number.nearestMultiple_nonneg hpos, ?_⟩
    have hshare : q / 2 ^ 52 ≤ 2 ^ 69 / 2 ^ 52 := div_le_div_of_nonneg_right hmost (by positivity)
    have hroom : (2 : ℚ) ^ 69 + 2 ^ 69 / 2 ^ 52 + 1 ≤ 2 ^ 70 := by norm_num
    have hle := Number.nearestMultiple_le hpos
    linarith

theorem roundSigned_nonneg (q : ℚ) : binary64.roundSigned false q = nearestDouble q := by
  unfold Number.Arithmetic.roundSigned
  split
  · rename_i hzero
    rw [hzero]
    rfl
  · rfl

section Scaling

variable {p r : ℚ} (hp : 0 ≤ p) (hr : 1 ≤ r)
include hp hr

/-- Products and quotients with a power of ten are rounded from those of the rationals. -/
theorem mul_power : binary64.mul (.finite p) (.finite r) = nearestDouble (p * r) := by
  have hsign : Number.isNegative (.finite p) = false := decide_eq_false (not_lt.mpr hp)
  have hsign' : Number.isNegative (.finite r) = false := decide_eq_false (by linarith)
  simp only [Number.Arithmetic.mul, Number.toRat?, hsign, hsign', bne_self_eq_false,
    roundSigned_nonneg]

theorem div_power : binary64.div (.finite p) (.finite r) = nearestDouble (p / r) := by
  have hnonzero : r ≠ 0 := by linarith
  have hsign : Number.isNegative (.finite p) = false := decide_eq_false (not_lt.mpr hp)
  have hsign' : Number.isNegative (.finite r) = false := decide_eq_false (by linarith)
  simp only [Number.Arithmetic.div, Number.toRat?, hsign, hsign', if_neg hnonzero,
    bne_self_eq_false, roundSigned_nonneg]

end Scaling

/-- **A scaled double is a double.** -/
theorem isDouble_of_scale? {x y : Number} {exponent : Int} (hx : IsModerate x)
    (h : scale? x exponent = some y) : y.IsDouble := by
  fun_induction scale? x exponent with
  | case1 x exponent hsign hle =>
      -- a product may be infinite, and then it is refused
      obtain ⟨-, p, rfl, hp, -⟩ := hx
      obtain ⟨r, hpower, hr, -⟩ := power_eq (n := exponent.toNat) (by omega)
      obtain ⟨heq, hfinite⟩ := Option.filter_eq_some_iff.mp h
      rw [hpower, mul_power hp hr] at heq
      cases heq
      exact Number.isDouble_nearestDouble hfinite
  | case2 x exponent hsign hle hzero =>
      cases h
      exact hx.1
  | case3 => cases h
  | case4 x exponent hsign hle =>
      -- a quotient is at most the double that was divided
      obtain ⟨-, p, rfl, hp, hmost⟩ := hx
      obtain ⟨r, hpower, hr, -⟩ := power_eq (n := (-exponent).toNat) (by omega)
      rw [hpower, div_power hp hr] at h
      cases h
      have hle : p / r ≤ p := div_le_self hp hr
      have hlimit : (2 : ℚ) ^ 70 ≤ 10 ^ 308 := by decide +kernel
      rcases (div_nonneg hp (by linarith : (0 : ℚ) ≤ r)).eq_or_lt with hzero | hpos
      · rw [← hzero]
        exact Number.isDouble_zero
      · exact (Number.nearestDouble_of_le hpos (hle.trans (hmost.trans hlimit))).2
  | case5 x exponent hsign hle hzero =>
      cases h
      exact hx.1
  | case6 x exponent hsign hle hzero ih =>
      obtain ⟨-, p, rfl, hp, hmost⟩ := hx
      obtain ⟨r, hpower, hr, htwo⟩ := power_eq (le_refl largestPower)
      -- the power is at least two, so that the quotient leaves room for rounding again
      refine ih ?_ h
      rw [hpower, div_power hp hr]
      have hhalf : p / r ≤ 2 ^ 69 := by
        have hrtwo : 2 ≤ r := htwo (by decide)
        rw [div_le_iff₀ (by linarith)]
        calc p ≤ 2 ^ 70 := hmost
          _ = 2 ^ 69 * 2 := by norm_num
          _ ≤ 2 ^ 69 * r := mul_le_mul_of_nonneg_left hrtwo (by positivity)
      exact isModerate_nearestDouble (div_nonneg hp (by linarith)) hhalf

theorem collectWhole_lt {significand : Nat} (h : significand < significandBound)
    (digits : List Char) : (collectWhole significand digits).1 < significandBound := by
  induction digits generalizing significand with
  | nil => exact h
  | cons c rest ih =>
      simp only [collectWhole]
      split
      · rename_i hnext
        exact ih hnext
      · exact h

/-- The same digits count before and behind the point. -/
theorem collectFraction_fst (significand : Nat) (digits : List Char) :
    (collectFraction significand digits).1 = (collectWhole significand digits).1 := by
  induction digits generalizing significand with
  | nil => rfl
  | cons c rest ih =>
      simp only [collectFraction, collectWhole]
      split
      · exact ih _
      · rfl

theorem collectFraction_lt {significand : Nat} (h : significand < significandBound)
    (digits : List Char) : (collectFraction significand digits).1 < significandBound := by
  rw [collectFraction_fst]
  exact collectWhole_lt h digits

/-- **A float that is read is a double.** -/
theorem isDouble_of_toFloat? {numeral : Numeral} {x : Number} (h : numeral.toFloat? = some x) :
    x.IsDouble := by
  unfold toFloat? at h
  simp only [Option.map_eq_some_iff] at h
  obtain ⟨y, hscaled, heq⟩ := h
  have hstart : (0 : Nat) < significandBound := by decide
  have hsignificand := collectFraction_lt (collectWhole_lt hstart numeral.whole) numeral.fraction
  -- the digits that count fit in 64 bits, which leaves the scaling far from overflow
  have hmost : ((collectFraction (collectWhole 0 numeral.whole).1 numeral.fraction).1 : ℚ) ≤
      2 ^ 69 := by
    have hcast : ((collectFraction (collectWhole 0 numeral.whole).1 numeral.fraction).1 : ℚ) ≤
        ((2 ^ 64 : Nat) : ℚ) := by exact_mod_cast hsignificand.le
    refine hcast.trans ?_
    norm_num
  have hmoderate := isModerate_nearestDouble (Nat.cast_nonneg _) hmost
  have hdouble : y.IsDouble := isDouble_of_scale? hmoderate hscaled
  split at heq
  · rw [← heq]
    exact hdouble.neg
  · rw [← heq]
    exact hdouble

end Numeral

/-! ## Sound drafts -/

namespace Draft

mutual

/-- The integers of a draft have 64 bits, and its floats are doubles. -/
def Sound : Draft → Prop
  | null => True
  | bool _ => True
  | integer n => IsWord64 n
  | float x => x.IsDouble
  | string _ => True
  | array items => ItemsSound items
  | object members => MembersSound members
  | malformed => True

def ItemsSound : List Draft → Prop
  | [] => True
  | item :: rest => Sound item ∧ ItemsSound rest

def MembersSound : List (String × Draft) → Prop
  | [] => True
  | (_, member) :: rest => Sound member ∧ MembersSound rest

end

theorem sound_array_iff {items : List Draft} :
    (array items).Sound ↔ ∀ item ∈ items, item.Sound := by
  change ItemsSound items ↔ _
  induction items with
  | nil => simp [ItemsSound]
  | cons item rest ih => simp [ItemsSound, ih]

theorem sound_object_iff {members : List (String × Draft)} :
    (object members).Sound ↔ ∀ member ∈ members, member.2.Sound := by
  change MembersSound members ↔ _
  induction members with
  | nil => simp [MembersSound]
  | cons member rest ih => simp [MembersSound, ih]

end Draft

/-- Being sound, wherever a draft stands. -/
def Invariant.sound : Invariant where
  Holds _ := Draft.Sound
  null _ := trivial
  bool _ _ := trivial
  string _ _ := trivial
  array _ := Draft.sound_array_iff.mpr
  object _ := Draft.sound_object_iff.mpr

/-- **The numbers of what is read off a text are doubles and integers of 64 bits.** -/
theorem sound_of_ofBytes? {text : Bytes} {draft : Draft} (h : Draft.ofBytes? text = some draft) :
    draft.Sound := by
  have hmalformed : Invariant.sound.ToleratesMalformed := fun _ => trivial
  have hnumbers : Invariant.sound.OfNumbers :=
    Invariant.ofNumbers_of hmalformed (fun _ hword _ => hword)
      fun _ _ hfloat _ => Numeral.isDouble_of_toFloat? hfloat
  exact Invariant.holds_of_ofBytes? hmalformed hnumbers h

end Json

end FeatureFlags

import FeatureFlags.Proofs.Number.Exact
import FeatureFlags.Proofs.Value.Group

/-!
# Equal numbers are hashed alike

Two integral numbers that are equal are the same integer.  Other numbers are hashed by
their sign, so it has to be shown that the tolerance never relates numbers of different
sign.  Their distance is at least the larger of them.  Rounding takes less than half of it
away (`half_lt_nearestMultiple`), and what the tolerance allows is at most doubled by
rounding (`nearestMultiple_le_double`), which leaves it far below the half.

Equality is not transitive, except where one of the numbers is integral
(`numbersEqual_trans`).  Both facts are carried over from numbers to values by induction
on the values (`hashData_eq_of_equals`, `equals_trans`).
-/

namespace FeatureFlags

namespace Number

open Arithmetic (binary64)

variable {p q : ℚ}

/-! ## What rounding can do to a distance -/

theorem nearestEven_le_double (hq : 0 ≤ q) : (nearestEven q : ℚ) ≤ 2 * q := by
  have hfloor : (q.floor : ℚ) ≤ q := Rat.floor_le q
  have hnonneg : 0 ≤ q.floor := Rat.le_floor_iff.mpr (by exact_mod_cast hq)
  have hnonnegCast : (0 : ℚ) ≤ q.floor := by exact_mod_cast hnonneg
  unfold nearestEven
  dsimp only
  split
  · linarith
  · split
    · push_cast
      linarith
    · split
      · linarith
      · -- a half that goes up lies above an odd number, which is not zero
        have hone : 1 ≤ q.floor := by omega
        have hcast : (1 : ℚ) ≤ q.floor := by exact_mod_cast hone
        push_cast
        linarith

theorem nearestMultiple_le_double (hq : 0 < q) : nearestMultiple q ≤ 2 * q := by
  have hquotient : 0 ≤ q / spacing q := (div_pos hq (spacing_pos q)).le
  calc nearestMultiple q
      ≤ (2 * (q / spacing q)) * spacing q :=
        mul_le_mul_of_nonneg_right (nearestEven_le_double hquotient) (spacing_pos q).le
    _ = 2 * q := by rw [mul_assoc, div_mul_cancel₀ _ (spacing_pos q).ne']

theorem half_lt_nearestMultiple (hq : (2 : ℚ) ^ (-1074 : ℤ) ≤ q) : q / 2 < nearestMultiple q := by
  have hpos : 0 < q := (zpow_pos two_pos _).trans_le hq
  obtain ⟨hlow, hhigh⟩ := floorLog2_bounds hpos
  have hlog : -1074 ≤ floorLog2 q := by
    have hlt : (2 : ℚ) ^ (-1074 : ℤ) < (2 : ℚ) ^ (floorLog2 q + 1) := hq.trans_lt hhigh
    have hexponent := (zpow_lt_zpow_iff_right₀ (by norm_num : (1 : ℚ) < 2)).mp hlt
    omega
  have hpower : q / 2 < (2 : ℚ) ^ floorLog2 q := by
    rw [zpow_add₀ two_ne_zero, zpow_one] at hhigh
    linarith
  exact hpower.trans_le (two_zpow_le_nearestMultiple hlog hlow)

/-- No positive double lies below the spacing of the smallest ones. -/
theorem two_zpow_le_of_double (hp : 0 < p) (hdouble : nearestDouble p = finite p) :
    (2 : ℚ) ^ (-1074 : ℤ) ≤ p ∧ p < overflowBound := by
  rcases nearestDouble_cases hp with hinfinite | ⟨hfinite, hbound⟩
  · rw [hdouble] at hinfinite
    cases hinfinite
  · have hself : nearestMultiple p = p := by
      rw [hdouble] at hfinite
      exact (Number.finite.inj hfinite).symm
    rw [hself] at hbound
    refine ⟨?_, hbound⟩
    obtain ⟨m, e, heq, -, he⟩ := hself ▸ isRepresentable_nearestMultiple hp
    -- a positive double is a multiple of the least one, and not its zeroth
    have hm : (1 : ℚ) ≤ m := by
      have hne : m ≠ 0 := by
        rintro rfl
        simp [heq] at hp
      exact_mod_cast Nat.one_le_iff_ne_zero.mpr hne
    calc (2 : ℚ) ^ (-1074 : ℤ) ≤ 1 * (2 : ℚ) ^ e := by
          rw [one_mul]
          exact zpow_le_zpow_right₀ one_le_two he
      _ ≤ m * (2 : ℚ) ^ e := mul_le_mul_of_nonneg_right hm (zpow_pos two_pos e).le
      _ = p := heq.symm

/-! ## The tolerance and the sign -/

theorem tolerance_eq : ∃ t : ℚ, Value.tolerance = finite t ∧ 0 ≤ t ∧ t ≤ 2 / 1000000000 := by
  have hpos : (0 : ℚ) < 1 / 1000000000 := by norm_num
  refine ⟨nearestMultiple (1 / 1000000000), ?_, nearestMultiple_nonneg hpos, ?_⟩
  · have hone : (1 : ℚ) ≤ 10 ^ 308 := one_le_pow₀ (by norm_num)
    have hless : (1 : ℚ) / 1000000000 ≤ 1 := by norm_num
    exact (nearestDouble_of_le hpos (hless.trans hone)).1
  · exact (nearestMultiple_le_double hpos).trans (by norm_num)

/-- The tolerance around a positive double is a small part of it. -/
theorem exists_tolerated (hp : 0 < p) (hbound : p < overflowBound) :
    ∃ b : ℚ, binary64.mul Value.tolerance (finite p) = finite b ∧ b < p / 2 := by
  obtain ⟨t, ht, hnonneg, hsmall⟩ := tolerance_eq
  have hproduct : t * p ≤ 2 / 1000000000 * p := mul_le_mul_of_nonneg_right hsmall hp.le
  have hsigns : ((finite t).isNegative != (finite p).isNegative) = false := by
    simp [isNegative, not_lt.mpr hnonneg, not_lt.mpr hp.le]
  have hmul : binary64.mul Value.tolerance (finite p) = binary64.roundSigned false (t * p) := by
    rw [ht, Arithmetic.mul, hsigns]
    rfl
  rw [hmul, Arithmetic.roundSigned]
  split
  · exact ⟨0, rfl, half_pos hp⟩
  · rename_i hne
    have hpos : 0 < t * p := lt_of_le_of_ne (mul_nonneg hnonneg hp.le) (Ne.symm hne)
    have hround := nearestMultiple_le_double hpos
    refine ⟨nearestMultiple (t * p), ?_, by linarith⟩
    rw [Arithmetic.round, nearestDouble_of_pos hpos, if_neg]
    linarith

theorem max_finite (p q : ℚ) : max (finite p) (finite q) = finite (Max.max p q) := by
  rcases lt_trichotomy p q with hlt | rfl | hlt
  · simp [max, compare?, toRat?, hlt, hlt.le]
  · simp [max, compare?, toRat?]
  · simp [max, compare?, toRat?, not_lt.mpr hlt.le, hlt.ne', hlt.le]

/-- **The tolerance never relates numbers of different sign.** -/
theorem withinTolerance_of_signs (hp : 0 < p) (hq : q < 0) (hx : nearestDouble p = finite p)
    (hy : nearestDouble (-q) = finite (-q)) :
    Value.withinTolerance (finite p) (finite q) = false := by
  obtain ⟨hpLeast, hpBound⟩ := two_zpow_le_of_double hp hx
  obtain ⟨hqLeast, hqBound⟩ := two_zpow_le_of_double (neg_pos.mpr hq) hy
  have hscale : max (finite p).abs (finite q).abs = finite (Max.max p (-q)) := by
    rw [abs, abs, if_neg (not_lt.mpr hp.le), if_pos hq, max_finite]
  -- opposite signs: the distance is no less than the larger amount, far above the tolerance
  have hdistance : Max.max p (-q) ≤ p - q := max_le (by linarith) (by linarith)
  obtain ⟨b, hb, hsmall⟩ := exists_tolerated (lt_max_of_lt_left hp) (max_lt hpBound hqBound)
  have hpos : 0 < p - q := by linarith
  have hhalf : (p - q) / 2 < nearestMultiple (p - q) :=
    half_lt_nearestMultiple (hpLeast.trans (by linarith))
  have hfalse : le (binary64.sub (finite p) (finite q)).abs (finite b) = false := by
    rw [abs_sub rfl rfl]
    rcases nearestDouble_cases hpos with hinfinite | ⟨hfinite, -⟩
    · rw [hinfinite]
      rfl
    · have hnonneg : ¬nearestMultiple (p - q) < 0 := not_lt.mpr (nearestMultiple_nonneg hpos)
      rw [hfinite, abs, if_neg hnonneg]
      refine Bool.eq_false_iff.mpr fun hle => ?_
      have hle := (le_iff_of_toRat? rfl rfl).mp hle
      linarith
  rw [Value.withinTolerance, hscale, hb]
  exact hfalse

end Number

namespace Value

/-! ## Equal numbers -/

section Numbers

variable {x y z : Number}

theorem toRat?_of_integral? {n : Int} (h : integral? x = some n) : x.toRat? = some (n : ℚ) := by
  have hvalue := (unsignedZero_of_integral? h).1
  cases x <;> cases hvalue <;> rfl

/-- Integral numbers that are equal are the same integer, and the others are equal only among
themselves. -/
theorem numbersEqual_iff : numbersEqual x y = true ↔
    (∃ n, integral? x = some n ∧ integral? y = some n) ∨
      (integral? x = none ∧ integral? y = none ∧
        (Number.equals x y = true ∨ withinTolerance x y = true)) := by
  unfold numbersEqual
  cases integral? x with
  | none => cases integral? y <;> simp
  | some m =>
      cases integral? y with
      | none => simp
      | some n => simp [eq_comm (a := m)]

/-- Integral numbers are equal as amounts. -/
theorem equals_of_numbersEqual (h : numbersEqual x y = true) :
    Number.equals x y = true ∨ integral? x = none ∧ integral? y = none := by
  rcases numbersEqual_iff.mp h with ⟨n, hx, hy⟩ | ⟨hx, hy, -⟩
  · refine Or.inl ?_
    have hx := Number.position?_of_toRat? (toRat?_of_integral? hx)
    have hy := Number.position?_of_toRat? (toRat?_of_integral? hy)
    refine decide_eq_true ?_
    rw [Number.compare?_eq_cmp, hx, hy]
    exact congrArg some (cmp_self_eq_eq _)
  · exact Or.inr ⟨hx, hy⟩

/-- Equality is transitive where an integral number takes part. -/
theorem numbersEqual_trans
    (hintegral : integral? x ≠ none ∨ integral? y ≠ none ∨ integral? z ≠ none)
    (hxy : numbersEqual x y = true) (hyz : numbersEqual y z = true) : numbersEqual x z = true := by
  rw [numbersEqual_iff] at hxy hyz ⊢
  rcases hxy with ⟨n, hx, hy⟩ | ⟨hx, hy, -⟩ <;> rcases hyz with ⟨m, hy', hz⟩ | ⟨hy', hz, -⟩
  · exact Or.inl ⟨n, hx, hz.trans (hy'.symm.trans hy)⟩
  · rw [hy] at hy'
    cases hy'
  · rw [hy] at hy'
    cases hy'
  · simp [hx, hy, hz] at hintegral

/-- A double that is not integral is not zero. -/
theorem exists_of_not_integral (hx : x.IsDouble) (h : integral? x = none) :
    ∃ p : ℚ, x = .finite p ∧ Number.nearestDouble p = .finite p ∧ p ≠ 0 := by
  rcases hx with rfl | ⟨p, rfl, hp⟩
  · exact absurd h (by decide)
  · refine ⟨p, rfl, hp, ?_⟩
    rintro rfl
    exact absurd h (by decide)

theorem withinTolerance_comm (x y : Number) : withinTolerance x y = withinTolerance y x := by
  simp only [withinTolerance, Number.abs_sub_comm x y, Number.max_abs_comm x y]

/-- The other side of a double is a double. -/
theorem nearestDouble_neg_of_double {p : ℚ} (hp : Number.nearestDouble p = .finite p)
    (hzero : p ≠ 0) : Number.nearestDouble (-p) = .finite (-p) := by
  have hneg : (Number.finite p).neg.IsDouble := Number.IsDouble.neg (Or.inr ⟨p, rfl, hp⟩)
  rw [Number.neg, if_neg hzero] at hneg
  rcases hneg with hcontra | ⟨q, hq, hdouble⟩
  · cases hcontra
  · cases hq
    exact hdouble

/-- Numbers that are close to each other lie on the same side of zero. -/
theorem sign_of_withinTolerance {p q : ℚ} (hp : Number.nearestDouble p = .finite p)
    (hq : Number.nearestDouble q = .finite q) (hpZero : p ≠ 0) (hqZero : q ≠ 0)
    (h : withinTolerance (.finite p) (.finite q) = true) : p < 0 ↔ q < 0 := by
  have hpNegated := nearestDouble_neg_of_double hp hpZero
  have hqNegated := nearestDouble_neg_of_double hq hqZero
  rcases lt_or_gt_of_ne hpZero with hpNeg | hpPos <;>
    rcases lt_or_gt_of_ne hqZero with hqNeg | hqPos
  · exact iff_of_true hpNeg hqNeg
  · rw [withinTolerance_comm, Number.withinTolerance_of_signs hqPos hpNeg hq hpNegated] at h
    cases h
  · rw [Number.withinTolerance_of_signs hpPos hqNeg hp hqNegated] at h
    cases h
  · exact iff_of_false hpPos.not_gt hqPos.not_gt

/-- **Equal doubles are hashed alike.** -/
theorem numberHashData_eq (hx : x.IsDouble) (hy : y.IsDouble) (h : numbersEqual x y = true) :
    numberHashData x = numberHashData y := by
  rcases numbersEqual_iff.mp h with ⟨n, hx, hy⟩ | ⟨hxNone, hyNone, hequal⟩
  · simp [numberHashData, hx, hy]
  · obtain ⟨p, rfl, hp, hpZero⟩ := exists_of_not_integral hx hxNone
    obtain ⟨q, rfl, hq, hqZero⟩ := exists_of_not_integral hy hyNone
    have hsign : p < 0 ↔ q < 0 := by
      rcases hequal with hsame | hnear
      · have hpq : p = q := by
          by_contra hne
          simp only [Number.equals, Number.compare?, Number.toRat?, Option.getD_some, hne,
            if_false, Option.some.injEq, decide_eq_true_eq] at hsame
          split at hsame <;> cases hsame
        rw [hpq]
      · exact sign_of_withinTolerance hp hq hpZero hqZero hnear
    simp [numberHashData, hxNone, hyNone, Number.isNegative, hsign]

end Numbers

/-! ## Equal values -/

/-- What equals a number is a number, and the same goes for lists and objects. -/
theorem equals_number_iff {x : Number} {b : Value} :
    (number x).equals b = true ↔ ∃ y, b = number y ∧ numbersEqual x y = true := by
  cases b <;> simp [equals]

theorem equals_array_iff {items : List Value} {b : Value} :
    (array items).equals b = true ↔
      ∃ others, b = array others ∧ items.isEqv others equals = true := by
  cases b <;> simp [equals, equalItems_eq_isEqv]

theorem equals_object_iff {fields : List (String × Value)} {b : Value} :
    (object fields).equals b = true ↔ ∃ others, b = object others ∧
      fields.isEqv others (fun a b => a.1 = b.1 && a.2.equals b.2) = true := by
  cases b <;> simp [equals, equalFields_eq_isEqv]

mutual

/-- The numbers that stand in a value. -/
def numbers : Value → List Number
  | number x => [x]
  | array items => itemsNumbers items
  | object fields => fieldsNumbers fields
  | _ => []

def itemsNumbers : List Value → List Number
  | [] => []
  | item :: rest => numbers item ++ itemsNumbers rest

def fieldsNumbers : List (String × Value) → List Number
  | [] => []
  | (_, value) :: rest => numbers value ++ fieldsNumbers rest

end

theorem mem_itemsNumbers {items : List Value} {x : Number} :
    x ∈ itemsNumbers items ↔ ∃ item ∈ items, x ∈ item.numbers := by
  induction items with
  | nil => simp [itemsNumbers]
  | cons item rest ih => simp [itemsNumbers, ih]

theorem mem_fieldsNumbers {fields : List (String × Value)} {x : Number} :
    x ∈ fieldsNumbers fields ↔ ∃ field ∈ fields, x ∈ field.2.numbers := by
  induction fields with
  | nil => simp [fieldsNumbers]
  | cons field rest ih => simp [fieldsNumbers, ih]

theorem numbers_subset_array {items : List Value} {item : Value} (h : item ∈ items) :
    item.numbers ⊆ (array items).numbers :=
  fun _ hx => mem_itemsNumbers.mpr ⟨item, h, hx⟩

theorem numbers_subset_object {fields : List (String × Value)} {field : String × Value}
    (h : field ∈ fields) : field.2.numbers ⊆ (object fields).numbers :=
  fun _ hx => mem_fieldsNumbers.mpr ⟨field, h, hx⟩

/-- Numbers of the two lists that are equal are hashed alike. -/
def HashedAlike (xs ys : List Number) : Prop :=
  ∀ x ∈ xs, ∀ y ∈ ys, numbersEqual x y = true → numberHashData x = numberHashData y

theorem HashedAlike.mono {xs xs' ys ys' : List Number} (h : HashedAlike xs ys) (hx : xs' ⊆ xs)
    (hy : ys' ⊆ ys) : HashedAlike xs' ys' :=
  fun x hmemx y hmemy => h x (hx hmemx) y (hy hmemy)

/-- **Values that are equal are hashed alike if their numbers are.** -/
theorem hashData_eq_of_equals {a b : Value} (hnumbers : HashedAlike a.numbers b.numbers)
    (h : a.equals b = true) : a.hashData = b.hashData := by
  induction a using Value.induction generalizing b with
  | number x =>
      obtain ⟨y, rfl, hequal⟩ := equals_number_iff.mp h
      have hdata := hnumbers x (List.mem_singleton_self x) y (List.mem_singleton_self y) hequal
      exact congrArg (HashItem.kind "number" :: ·) hdata
  | array items ih =>
      obtain ⟨others, rfl, hequal⟩ := equals_array_iff.mp h
      have hdata : items.map hashData = others.map hashData := by
        refine List.map_eq_of_isEqv (fun item hitem other hother => ih item hitem ?_) hequal
        exact hnumbers.mono (numbers_subset_array hitem) (numbers_subset_array hother)
      rw [hashData_array, hashData_array, hdata]
  | object fields ih =>
      obtain ⟨others, rfl, hequal⟩ := equals_object_iff.mp h
      have hdata : fields.map fieldHashData = others.map fieldHashData := by
        refine List.map_eq_of_isEqv (fun field hfield other hother hsame => ?_) hequal
        obtain ⟨hname, hvalue⟩ := Bool.and_eq_true_iff.mp hsame
        have hpart := hnumbers.mono (numbers_subset_object hfield) (numbers_subset_object hother)
        rw [fieldHashData, fieldHashData, of_decide_eq_true hname, ih field hfield hpart hvalue]
      rw [hashData_object, hashData_object, hdata]
  | _ => cases b <;> simp_all [equals, hashData]

/-- Equality is transitive between numbers of the three lists. -/
def Chained (xs ys zs : List Number) : Prop :=
  ∀ x ∈ xs, ∀ y ∈ ys, ∀ z ∈ zs, numbersEqual x y = true → numbersEqual y z = true →
    numbersEqual x z = true

theorem Chained.mono {xs xs' ys ys' zs zs' : List Number} (h : Chained xs ys zs) (hx : xs' ⊆ xs)
    (hy : ys' ⊆ ys) (hz : zs' ⊆ zs) : Chained xs' ys' zs' :=
  fun x hmemx y hmemy z hmemz => h x (hx hmemx) y (hy hmemy) z (hz hmemz)

/-- **Equality of values is transitive if that of their numbers is.** -/
theorem equals_trans {a b c : Value} (hnumbers : Chained a.numbers b.numbers c.numbers)
    (hab : a.equals b = true) (hbc : b.equals c = true) : a.equals c = true := by
  induction a using Value.induction generalizing b c with
  | number x =>
      obtain ⟨y, rfl, hxy⟩ := equals_number_iff.mp hab
      obtain ⟨z, rfl, hyz⟩ := equals_number_iff.mp hbc
      exact hnumbers x (List.mem_singleton_self x) y (List.mem_singleton_self y) z
        (List.mem_singleton_self z) hxy hyz
  | array items ih =>
      obtain ⟨others, rfl, hothers⟩ := equals_array_iff.mp hab
      obtain ⟨more, rfl, hmore⟩ := equals_array_iff.mp hbc
      refine equals_array_iff.mpr ⟨more, rfl, List.isEqv_trans ?_ hothers hmore⟩
      intro x hx y hy z hz
      exact ih x hx (hnumbers.mono (numbers_subset_array hx) (numbers_subset_array hy)
        (numbers_subset_array hz))
  | object fields ih =>
      obtain ⟨others, rfl, hothers⟩ := equals_object_iff.mp hab
      obtain ⟨more, rfl, hmore⟩ := equals_object_iff.mp hbc
      refine equals_object_iff.mpr ⟨more, rfl, List.isEqv_trans ?_ hothers hmore⟩
      intro x hx y hy z hz hxy hyz
      simp only [Bool.and_eq_true, decide_eq_true_eq] at hxy hyz ⊢
      have hpart := hnumbers.mono (numbers_subset_object hx) (numbers_subset_object hy)
        (numbers_subset_object hz)
      exact ⟨hxy.1.trans hyz.1, ih x hx hpart hxy.2 hyz.2⟩
  -- a value without numbers in it is equal to itself only, so the second value is the first
  | boolean x =>
      cases b with
      | boolean y =>
          cases of_decide_eq_true hab
          exact hbc
      | _ => cases hab
  | string s =>
      cases b with
      | string t =>
          cases of_decide_eq_true hab
          exact hbc
      | _ => cases hab
  | _ =>
      cases b <;> first
        | exact hbc
        | cases hab

/-! ## Values with integral numbers -/

/-- All numbers that stand in a value are integral. -/
def IsIntegral (value : Value) : Prop := ∀ x ∈ value.numbers, integral? x ≠ none

/-- All numbers that stand in a value are doubles. -/
def HasDoubles (value : Value) : Prop := ∀ x ∈ value.numbers, x.IsDouble

/-- The numbers of what is read off a regular tree are doubles. -/
theorem hasDoubles_ofJson {json : Json} (hjson : json.Regular) : (ofJson json).HasDoubles := by
  induction json using Json.induction with
  | integer n =>
      intro x hx
      rw [List.mem_singleton.mp hx]
      exact Json.IsWord64.isDouble hjson
  | float x =>
      intro y hy
      rw [List.mem_singleton.mp hy]
      exact hjson
  | array items ih =>
      intro x hx
      rw [ofJson, ofItems_eq_map, numbers, mem_itemsNumbers] at hx
      obtain ⟨value, hvalue, hx⟩ := hx
      obtain ⟨item, hitem, rfl⟩ := List.mem_map.mp hvalue
      exact ih item hitem (Json.regular_array_iff.mp hjson item hitem) x hx
  | object members ih =>
      intro x hx
      rw [ofJson, ofMembers_eq_map, numbers, mem_fieldsNumbers] at hx
      obtain ⟨field, hfield, hx⟩ := hx
      obtain ⟨member, hmember, rfl⟩ := List.mem_map.mp hfield
      exact ih member hmember ((Json.regular_object_iff.mp hjson).2 member hmember) x hx
  | _ =>
      intro x hx
      cases hx

theorem hashedAlike_of_doubles {a b : Value} (ha : a.HasDoubles) (hb : b.HasDoubles) :
    HashedAlike a.numbers b.numbers :=
  fun x hx y hy => numberHashData_eq (ha x hx) (hb y hy)

theorem hashedAlike_of_integral {a b : Value} (h : a.IsIntegral ∨ b.IsIntegral) :
    HashedAlike a.numbers b.numbers := by
  intro x hx y hy hequal
  rcases numbersEqual_iff.mp hequal with ⟨n, hxn, hyn⟩ | ⟨hxn, hyn, -⟩
  · simp [numberHashData, hxn, hyn]
  · rcases h with ha | hb
    · exact absurd hxn (ha x hx)
    · exact absurd hyn (hb y hy)

/-- Where equal numbers are hashed alike, a set takes equal values for one. -/
theorem coincide_iff {a b : Value} (h : HashedAlike a.numbers b.numbers) :
    a.Coincide b ↔ a.equals b = true :=
  ⟨fun hcoincide => hcoincide.2, fun hequal => ⟨hashData_eq_of_equals h hequal, hequal⟩⟩

theorem chained_of_integral {a b c : Value} (h : b.IsIntegral ∨ c.IsIntegral) :
    Chained a.numbers b.numbers c.numbers := by
  intro x hx y hy z hz
  exact numbersEqual_trans (Or.inr (h.imp (fun hb => hb y hy) fun hc => hc z hz))

end Value

end FeatureFlags

import FeatureFlags.Proofs.Condition.Membership
import FeatureFlags.Proofs.Json.Doubles
import FeatureFlags.Proofs.Text.Digits
import FeatureFlags.Proofs.Value.Hashing

/-!
# Integers as values

A value holds an integer as the nearest double, which is an integer again (`heldInteger`).  An
integer is held as it is exactly if it has at most 53 significant binary digits
(`heldInteger_eq_self_iff`), and several others are held as one.  Equality, the text by which
users are hashed, lists and groups distinguish two integers exactly if they are held as different
ones.
-/

namespace FeatureFlags

/-! ## Integers among doubles -/

namespace Number

/-- The double nearest to a natural number is a natural number. -/
theorem exists_nearestMultiple_natCast {n : ℕ} (hn : 0 < n) :
    ∃ k : ℕ, nearestMultiple (n : ℚ) = k := by
  have hpos : (0 : ℚ) < n := by exact_mod_cast hn
  by_cases hsmall : n ≤ 2 ^ 53
  · have hrepresentable : IsRepresentable (n : ℚ) := ⟨n, 0, by norm_num, hsmall, by norm_num⟩
    exact ⟨n, nearestMultiple_of_isRepresentable hpos hrepresentable⟩
  -- Above the digits of a double the spacing is a natural number.
  have hlarge : (2 : ℚ) ^ (53 : ℤ) < (2 : ℚ) ^ (floorLog2 (n : ℚ) + 1) := by
    refine lt_of_le_of_lt ?_ (floorLog2_bounds hpos).2
    exact_mod_cast (Nat.lt_of_not_le hsmall).le
  have hlog : (53 : ℤ) < floorLog2 (n : ℚ) + 1 := (zpow_lt_zpow_iff_right₀ (by norm_num)).mp hlarge
  have hexponent : 0 ≤ spacingExponent (n : ℚ) := by
    unfold spacingExponent
    omega
  have hnonneg : 0 ≤ nearestEven ((n : ℚ) / spacing n) := nearestEven_div_spacing_nonneg hpos
  refine ⟨(nearestEven ((n : ℚ) / spacing n)).toNat * 2 ^ (spacingExponent (n : ℚ)).toNat, ?_⟩
  have hnearest : ((nearestEven ((n : ℚ) / spacing n)).toNat : ℚ) =
      nearestEven ((n : ℚ) / spacing n) := by
    exact_mod_cast Int.toNat_of_nonneg hnonneg
  rw [nearestMultiple, spacing_eq, Nat.cast_mul, ← spacing_eq, hnearest, spacing_eq, Nat.cast_pow,
    Nat.cast_ofNat, ← zpow_natCast, Int.toNat_of_nonneg hexponent]

/-- The double nearest to a natural number below a power of two is one up to it. -/
theorem exists_nearestDouble_natCast {n : ℕ} (hn : 0 < n) (hbound : n ≤ 2 ^ 63) :
    ∃ k : ℕ, nearestMultiple (n : ℚ) = k ∧ nearestDouble (n : ℚ) = finite k ∧ 0 < k ∧
      k ≤ 2 ^ 63 := by
  have hpos : (0 : ℚ) < n := by exact_mod_cast hn
  have hone : (2 : ℚ) ^ (0 : ℤ) ≤ n := by exact_mod_cast hn
  have hmost : (n : ℚ) ≤ (2 : ℚ) ^ (63 : ℤ) := by exact_mod_cast hbound
  obtain ⟨k, hk⟩ := exists_nearestMultiple_natCast hn
  have hleast := two_zpow_le_nearestMultiple (by norm_num) hone
  have hgreatest := nearestMultiple_le_two_zpow hpos (by norm_num) hmost
  rw [hk] at hleast hgreatest
  refine ⟨k, hk, ?_, by exact_mod_cast hleast, by exact_mod_cast hgreatest⟩
  have hlimit : (2 : ℚ) ^ (63 : ℤ) ≤ 10 ^ 308 := by decide +kernel
  rw [(nearestDouble_of_le hpos (hmost.trans hlimit)).1, hk]

/-- The double nearest to an integer is an integer. -/
theorem exists_nearestDouble_intCast {m : ℤ} (hm : m.natAbs ≤ 2 ^ 63) :
    ∃ k : ℤ, nearestDouble (m : ℚ) = finite k ∧ k.natAbs ≤ 2 ^ 63 := by
  rcases Int.lt_trichotomy m 0 with hneg | rfl | hpos
  · obtain ⟨n, rfl⟩ : ∃ n : ℕ, m = -n := ⟨m.natAbs, by omega⟩
    obtain ⟨k, -, hk, hk0, hk63⟩ :=
      exists_nearestDouble_natCast (n := n) (by omega) (by omega)
    refine ⟨-k, ?_, by omega⟩
    have hne : (k : ℚ) ≠ 0 := by exact_mod_cast hk0.ne'
    push_cast
    rw [nearestDouble_neg (by exact_mod_cast (show 0 < n by omega)), hk, neg, if_neg hne]
  · exact ⟨0, rfl, by decide⟩
  · obtain ⟨n, rfl⟩ : ∃ n : ℕ, m = n := ⟨m.natAbs, by omega⟩
    obtain ⟨k, -, hk, -, hk63⟩ := exists_nearestDouble_natCast (n := n) (by omega) (by omega)
    exact ⟨k, by exact_mod_cast hk, by omega⟩

/-- The integer that is held in place of an integer: the nearest one that is a double. -/
def heldInteger (m : ℤ) : ℤ := (nearestDouble (m : ℚ)).toInt?.getD 0

theorem heldInteger_eq {m k : ℤ} (h : nearestDouble (m : ℚ) = finite k) : heldInteger m = k := by
  simp [heldInteger, h, toInt?, toRat?]

theorem nearestDouble_intCast {m : ℤ} (hm : m.natAbs ≤ 2 ^ 63) :
    nearestDouble (m : ℚ) = finite (heldInteger m) := by
  obtain ⟨k, hk, -⟩ := exists_nearestDouble_intCast hm
  rw [heldInteger_eq hk]
  exact hk

theorem natAbs_heldInteger_le {m : ℤ} (hm : m.natAbs ≤ 2 ^ 63) :
    (heldInteger m).natAbs ≤ 2 ^ 63 := by
  obtain ⟨k, hk, hbound⟩ := exists_nearestDouble_intCast hm
  rw [heldInteger_eq hk]
  exact hbound

theorem heldInteger_neg {n : ℕ} (hn : 0 < n) (hbound : n ≤ 2 ^ 63) :
    heldInteger (-n) = -heldInteger n := by
  obtain ⟨k, -, hk, hk0, -⟩ := exists_nearestDouble_natCast hn hbound
  have hne : (k : ℚ) ≠ 0 := by exact_mod_cast hk0.ne'
  have hnegative : nearestDouble ((-n : ℤ) : ℚ) = finite ((-k : ℤ) : ℚ) := by
    push_cast
    rw [nearestDouble_neg (by exact_mod_cast hn), hk, neg, if_neg hne]
  rw [heldInteger_eq hnegative, heldInteger_eq (k := (k : ℤ)) (by exact_mod_cast hk)]

/-- At most 53 significant binary digits. -/
def HasDoubleDigits (m : ℤ) : Prop := ∃ (c : ℤ) (e : ℕ), m = c * 2 ^ e ∧ c.natAbs ≤ 2 ^ 53

theorem HasDoubleDigits.neg {m : ℤ} (h : HasDoubleDigits m) : HasDoubleDigits (-m) := by
  obtain ⟨c, e, rfl, hc⟩ := h
  exact ⟨-c, e, (neg_mul _ _).symm, by rwa [Int.natAbs_neg]⟩

theorem hasDoubleDigits_of_isRepresentable {n : ℕ} (h : IsRepresentable (n : ℚ)) :
    HasDoubleDigits n := by
  obtain ⟨c, e, heq, hc, -⟩ := h
  rcases le_total 0 e with hle | hle
  · obtain ⟨f, rfl⟩ := Int.eq_ofNat_of_zero_le hle
    exact ⟨c, f, by exact_mod_cast heq, by simpa using hc⟩
  · -- A number is at most its significand then.
    have hpower : (2 : ℚ) ^ e ≤ 1 := zpow_le_one_of_nonpos₀ (by norm_num) hle
    have hmost : (n : ℚ) ≤ c := by
      rw [heq]
      exact mul_le_of_le_one_right (Nat.cast_nonneg c) hpower
    have hmost : n ≤ c := by exact_mod_cast hmost
    exact ⟨n, 0, by simp, by simpa using hmost.trans hc⟩

/-- **Which integers are held as they are.** -/
theorem heldInteger_eq_self_iff {m : ℤ} (hm : m.natAbs ≤ 2 ^ 63) :
    heldInteger m = m ↔ HasDoubleDigits m := by
  have hpositive {n : ℕ} (hn : 0 < n) (hbound : n ≤ 2 ^ 63) :
      heldInteger n = n ↔ HasDoubleDigits n := by
    have hpos : (0 : ℚ) < n := by exact_mod_cast hn
    obtain ⟨k, hmultiple, hk, -⟩ := exists_nearestDouble_natCast hn hbound
    have hheld : heldInteger n = k := heldInteger_eq (by exact_mod_cast hk)
    -- what is held is rounded, and rounding leaves exactly what can be represented
    constructor
    · intro h
      have hsame : k = n := by exact_mod_cast hheld.symm.trans h
      refine hasDoubleDigits_of_isRepresentable ?_
      rw [← hsame, ← hmultiple]
      exact isRepresentable_nearestMultiple hpos
    · rintro ⟨c, e, heq, hc⟩
      have hc0 : 0 ≤ c := by
        by_contra hneg
        have hpower : (0 : ℤ) < 2 ^ e := pow_pos (by norm_num) e
        have hproduct := mul_neg_of_neg_of_pos (not_le.mp hneg) hpower
        omega
      have hrepresentable : IsRepresentable (n : ℚ) := by
        refine ⟨c.toNat, e, ?_, by omega, by omega⟩
        have hcast : ((c.toNat : ℤ) : ℚ) = c := by rw [Int.toNat_of_nonneg hc0]
        have heq : (n : ℚ) = c * 2 ^ e := by exact_mod_cast heq
        rw [heq, ← hcast]
        norm_cast
      have hsame := hmultiple.symm.trans (nearestMultiple_of_isRepresentable hpos hrepresentable)
      rw [hheld]
      exact_mod_cast hsame
  rcases Int.lt_trichotomy m 0 with hneg | rfl | hpos
  · obtain ⟨n, rfl⟩ : ∃ n : ℕ, m = -n := ⟨m.natAbs, by omega⟩
    rw [heldInteger_neg (by omega) (by omega), neg_inj, hpositive (by omega) (by omega)]
    exact ⟨fun h => h.neg, fun h => by simpa using h.neg⟩
  · exact iff_of_true rfl ⟨0, 0, by norm_num, by norm_num⟩
  · obtain ⟨n, rfl⟩ : ∃ n : ℕ, m = n := ⟨m.natAbs, by omega⟩
    exact hpositive (by omega) (by omega)

end Number

/-! ## Values of integers -/

/-- The integers of 64 bits with a sign. -/
def IsSigned64 (m : ℤ) : Prop := -0x8000000000000000 ≤ m ∧ m < 0x8000000000000000

theorem IsSigned64.natAbs_le {m : ℤ} (h : IsSigned64 m) : m.natAbs ≤ 2 ^ 63 := by
  unfold IsSigned64 at h
  omega

theorem IsSigned64.regular {m : ℤ} (h : IsSigned64 m) : (Json.integer m).Regular := by
  have hword : Json.IsWord64 m := by
    unfold IsSigned64 at h
    unfold Json.IsWord64
    omega
  exact hword

namespace Value

open Number (heldInteger)
open Text

theorem integral?_intCast (k : ℤ) :
    integral? (.finite k) = if k.natAbs < 2 ^ 63 then some k else none := by
  have hinteger : Number.toInt? (.finite k) = some k := by simp [Number.toInt?, Number.toRat?]
  rw [integral?, hinteger, Option.filter_some]
  refine if_congr ?_ rfl rfl
  have hbound : integralBound = 2 ^ 63 := by decide
  rw [decide_eq_true_eq, hbound]
  omega

/-- Integers that are held are equal only to themselves. -/
theorem numbersEqual_intCast_iff {k l : ℤ} (hk : k.natAbs ≤ 2 ^ 63) (hl : l.natAbs ≤ 2 ^ 63) :
    numbersEqual (.finite k) (.finite l) = true ↔ k = l := by
  by_cases hksmall : k.natAbs < 2 ^ 63
  · by_cases hlsmall : l.natAbs < 2 ^ 63
    · rw [numbersEqual, integral?_intCast, integral?_intCast, if_pos hksmall, if_pos hlsmall]
      exact decide_eq_true_iff
    · rw [numbersEqual, integral?_intCast, integral?_intCast, if_pos hksmall, if_neg hlsmall]
      refine iff_of_false Bool.false_ne_true ?_
      omega
  · by_cases hlsmall : l.natAbs < 2 ^ 63
    · rw [numbersEqual, integral?_intCast, integral?_intCast, if_neg hksmall, if_pos hlsmall]
      refine iff_of_false Bool.false_ne_true ?_
      omega
    · -- Only the two ends are not integral, and these have different signs.
      have hkends : k = 2 ^ 63 ∨ k = -2 ^ 63 := by omega
      have hlends : l = 2 ^ 63 ∨ l = -2 ^ 63 := by omega
      rcases hkends with rfl | rfl <;> rcases hlends with rfl | rfl <;> decide +kernel

/-- The integer whose digits are shown for one that is held.  The ends of the range are not
integral, and of these only the digits are shown that tell them from other doubles. -/
def shownInteger (k : ℤ) : ℤ :=
  if k = 2 ^ 63 then 9223372036854776000
  else if k = -2 ^ 63 then -9223372036854776000
  else k

theorem numberText_intCast {k : ℤ} (hk : k.natAbs ≤ 2 ^ 63) :
    numberText (.finite k) = String.ofList (Digits.writeInt (shownInteger k)) := by
  by_cases hhigh : k = 2 ^ 63
  · subst hhigh
    decide +kernel
  by_cases hlow : k = -2 ^ 63
  · subst hlow
    decide +kernel
  rw [numberText, integral?_intCast, if_pos (by omega), shownInteger, if_neg hhigh, if_neg hlow]

theorem shownInteger_injective {k l : ℤ} (hk : k.natAbs ≤ 2 ^ 63) (hl : l.natAbs ≤ 2 ^ 63)
    (h : shownInteger k = shownInteger l) : k = l := by
  unfold shownInteger at h
  split_ifs at h <;> omega

/-- Integers that are held have different texts. -/
theorem numberText_intCast_iff {k l : ℤ} (hk : k.natAbs ≤ 2 ^ 63) (hl : l.natAbs ≤ 2 ^ 63) :
    numberText (.finite k) = numberText (.finite l) ↔ k = l := by
  constructor
  · intro h
    rw [numberText_intCast hk, numberText_intCast hl] at h
    exact shownInteger_injective hk hl (Digits.writeInt_injective (String.ofList_injective h))
  · rintro rfl
    rfl

theorem ofJson_integer {m : ℤ} (hm : IsSigned64 m) :
    ofJson (.integer m) = number (.finite (heldInteger m)) :=
  congrArg number (Number.nearestDouble_intCast hm.natAbs_le)

/-- Integers that are held as one have the same value. -/
theorem ofJson_integer_eq {m n : ℤ} (hm : IsSigned64 m) (hn : IsSigned64 n)
    (h : heldInteger m = heldInteger n) : ofJson (.integer m) = ofJson (.integer n) := by
  rw [ofJson_integer hm, ofJson_integer hn, h]

theorem hasDoubles_integer {m : ℤ} (hm : IsSigned64 m) : (ofJson (.integer m)).HasDoubles :=
  hasDoubles_ofJson hm.regular

theorem equals_integer_iff {m n : ℤ} (hm : IsSigned64 m) (hn : IsSigned64 n) :
    (ofJson (.integer m)).equals (ofJson (.integer n)) = true ↔ heldInteger m = heldInteger n := by
  rw [ofJson_integer hm, ofJson_integer hn, equals]
  exact numbersEqual_intCast_iff (Number.natAbs_heldInteger_le hm.natAbs_le)
    (Number.natAbs_heldInteger_le hn.natAbs_le)

theorem hashText_integer_iff {m n : ℤ} (hm : IsSigned64 m) (hn : IsSigned64 n) :
    hashText (ofJson (.integer m)) = hashText (ofJson (.integer n)) ↔
      heldInteger m = heldInteger n := by
  rw [ofJson_integer hm, ofJson_integer hn, hashText, hashText]
  exact numberText_intCast_iff (Number.natAbs_heldInteger_le hm.natAbs_le)
    (Number.natAbs_heldInteger_le hn.natAbs_le)

/-- A group of integers is read as the set of their values. -/
theorem decode_integers {ids : List ℤ} (hids : ∀ id ∈ ids, IsSigned64 id) :
    ValueSet.decode (.ofJson (.array (ids.map .integer))) =
      some (ValueSet.ofList (ofItems (ids.map .integer))) := by
  have hregular : (Json.array (ids.map .integer)).Regular := by
    rw [Json.regular_array_iff, List.forall_mem_map]
    exact fun id hid => (hids id hid).regular
  exact ValueSet.decode_of_toJson? (Json.toJson?_ofJson_of_regular hregular)

/-- The values of a list of integers. -/
theorem mem_ofItems_integers {ids : List ℤ} {item : Value} :
    item ∈ ofItems (ids.map .integer) ↔ ∃ id ∈ ids, item = ofJson (.integer id) := by
  simp [ofItems_eq_map, eq_comm]

theorem inList_integers_iff {ids : List ℤ} (hids : ∀ id ∈ ids, IsSigned64 id) {m : ℤ}
    (hm : IsSigned64 m) :
    (ofJson (.integer m)).inList (ofItems (ids.map .integer)) = true ↔
      ∃ id ∈ ids, heldInteger id = heldInteger m := by
  have hany : (ofJson (.integer m)).inList (ofItems (ids.map .integer)) =
      (ofItems (ids.map .integer)).any fun item => item.equals (ofJson (.integer m)) := rfl
  rw [hany, List.any_eq_true]
  constructor
  · rintro ⟨item, hitem, hequal⟩
    obtain ⟨id, hid, rfl⟩ := mem_ofItems_integers.mp hitem
    exact ⟨id, hid, (equals_integer_iff (hids id hid) hm).mp hequal⟩
  · rintro ⟨id, hid, hheld⟩
    refine ⟨ofJson (.integer id), mem_ofItems_integers.mpr ⟨id, hid, rfl⟩, ?_⟩
    exact (equals_integer_iff (hids id hid) hm).mpr hheld

theorem inGroup_integers_iff {ids : List ℤ} (hids : ∀ id ∈ ids, IsSigned64 id) {m : ℤ}
    (hm : IsSigned64 m) {groups : SavedGroups} {group : String}
    (hgroup : Dictionary.get? groups group =
      some (ValueSet.ofList (ofItems (ids.map .integer)))) :
    (ofJson (.integer m)).inGroup groups group = true ↔
      ∃ id ∈ ids, heldInteger id = heldInteger m := by
  have hcontains : (ofJson (.integer m)).inGroup groups group =
      (ValueSet.ofList (ofItems (ids.map .integer))).contains (ofJson (.integer m)) := by
    rw [inGroup, hgroup]
    rfl
  have hitems : ∀ item ∈ ofItems (ids.map .integer), item.HasDoubles := by
    rintro item hitem
    obtain ⟨id, hid, rfl⟩ := mem_ofItems_integers.mp hitem
    exact hasDoubles_integer (hids id hid)
  rw [hcontains]
  constructor
  · -- a kept member is an item; an item may be left out, but only for an equal one
    intro h
    obtain ⟨member, hmember, hequal⟩ := (ValueSet.contains_iff_equals
      (fun member hmember => hitems member (ValueSet.mem_of_mem_ofList hmember))
      (hasDoubles_integer hm)).mp h
    obtain ⟨id, hid, rfl⟩ := mem_ofItems_integers.mp (ValueSet.mem_of_mem_ofList hmember)
    exact ⟨id, hid, (equals_integer_iff (hids id hid) hm).mp hequal⟩
  · rintro ⟨id, hid, hheld⟩
    rw [← ofJson_integer_eq (hids id hid) hm hheld]
    exact ValueSet.contains_of_mem (mem_ofItems_integers.mpr ⟨id, hid, rfl⟩)
      (hasDoubles_integer (hids id hid)).equals_self

end Value

/-- **Integers keep the identity of a double.**  Two integers of 64 bits have equal values exactly
if the same integer is held in place of both, and then only they have one text to be hashed by and
stand for each other in lists and groups.  This integer is the nearest double; it is the integer
itself exactly if that has at most 53 significant binary digits.  Where it is integral, the text of
the value and its JSON are its decimal digits; an integer that is rounded up to the end of the
range is a float from then on. -/
theorem integers_held_as_doubles {m n : ℤ} (hm : IsSigned64 m) (hn : IsSigned64 n) :
    let first := Value.ofJson (.integer m)
    let second := Value.ofJson (.integer n)
    let held := Number.heldInteger
    Number.nearestDouble m = .finite (held m) ∧
    (held m = m ↔ Number.HasDoubleDigits m) ∧
    ((held m).natAbs < 2 ^ 63 →
      first.hashText = String.ofList (Text.Digits.writeInt (held m)) ∧
        first.toJson = .integer (held m) ∧
        first.toJson.text = String.ofList (Text.Digits.writeInt (held m))) ∧
    (held m = 2 ^ 63 →
      first.hashText = "9223372036854776000" ∧ first.toJson.text = "9.223372036854776e+18") ∧
    (first.equals second = true ↔ held m = held n) ∧
    (first.hashText = second.hashText ↔ held m = held n) ∧
    ∀ ids : List ℤ, (∀ id ∈ ids, IsSigned64 id) →
      let items := Json.array (ids.map .integer)
      ∃ set, ValueSet.decode (.ofJson items) = some set ∧
        ∀ (groups : SavedGroups) (group : String), Dictionary.get? groups group = some set →
          let holds (name : String) (operand : Json) :=
            (Condition.compileOperator name operand).holds groups first
          (holds "$in" items = true ↔ ∃ id ∈ ids, held id = held m) ∧
            (holds "$inGroup" (.string group) = true ↔ ∃ id ∈ ids, held id = held m) := by
  intro first second held
  have hbound : m.natAbs ≤ 2 ^ 63 := hm.natAbs_le
  have hfirst : first = .number (.finite (held m)) := Value.ofJson_integer hm
  refine ⟨Number.nearestDouble_intCast hbound, Number.heldInteger_eq_self_iff hbound, ?_, ?_,
    Value.equals_integer_iff hm hn, Value.hashText_integer_iff hm hn, ?_⟩
  · intro hsmall
    have hintegral : Value.integral? (.finite (held m)) = some (held m) := by
      rw [Value.integral?_intCast, if_pos hsmall]
    have hjson : first.toJson = .integer (held m) := by
      rw [hfirst, Value.toJson, Value.numberJson, hintegral]
    refine ⟨?_, hjson, ?_⟩
    · rw [hfirst, Value.hashText, Value.numberText, hintegral]
    · rw [hjson, Json.text, Json.write]
  · -- the double of the largest integers lies outside of 64 bits, and is written as a float
    intro hend
    rw [hfirst, hend]
    decide +kernel
  · intro ids hids items
    refine ⟨_, Value.decode_integers hids, fun groups group hgroup => ?_⟩
    intro holds
    simp only [holds, items, holds_isIn, holds_inGroup]
    exact ⟨Value.inList_integers_iff hids hm, Value.inGroup_integers_iff hids hm hgroup⟩

/-- Of three neighbouring integers the second is held as the first and not as the third. -/
theorem middle_found_as_first :
    let value (m : ℤ) := Value.ofJson (.integer m)
    let group := Json.array [.integer 9007199254740992]
    IsSigned64 9007199254740993 ∧ IsSigned64 9007199254740994 ∧
      (value 9007199254740993).equals (value 9007199254740994) = false ∧
      ∃ set, ValueSet.decode (.ofJson group) = some set ∧
        (Condition.compileOperator "$inGroup" (.string "g")).holds [("g", set)]
          (value 9007199254740993) = true := by
  intro value group
  have hmiddle : IsSigned64 9007199254740993 := by
    unfold IsSigned64
    decide
  have hlast : IsSigned64 9007199254740994 := by
    unfold IsSigned64
    decide
  have hids : ∀ id ∈ [(9007199254740992 : ℤ)], IsSigned64 id := by
    unfold IsSigned64
    decide
  obtain ⟨-, -, -, -, hequals, -, hlists⟩ := integers_held_as_doubles hmiddle hlast
  obtain ⟨set, hset, hholds⟩ := hlists [9007199254740992] hids
  refine ⟨hmiddle, hlast, ?_, set, hset, ?_⟩
  · rw [← Bool.not_eq_true, hequals]
    decide +kernel
  · exact (hholds [("g", set)] "g" rfl).2.mpr
      ⟨9007199254740992, List.mem_singleton_self _, by decide +kernel⟩

/-- Different integers, one value: the second of the two loses its last digit. -/
theorem last_digit_lost :
    let first := Value.ofJson (.integer 9007199254740992)
    let second := Value.ofJson (.integer 9007199254740993)
    IsSigned64 9007199254740992 ∧ IsSigned64 9007199254740993 ∧
      (9007199254740992 : ℤ) ≠ 9007199254740993 ∧ first.equals second = true ∧
      second.hashText = "9007199254740992" ∧ second.toJson.text = "9007199254740992" := by
  unfold IsSigned64
  decide +kernel

end FeatureFlags

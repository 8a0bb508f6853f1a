import FeatureFlags.Proofs.Value.Tolerance

/-!
# Sets find what is equal

A set looks for a value among the members with the same hash data only.  It loses nothing
by this, because equality fits the hash data as long as all numbers are doubles: every
value is equal to itself (`Value.equals_self`), equality does not depend on the side from
which it is asked, and equal values have the same data (`Value.hashData_eq_of_equals`).  So
a value is in a set exactly if some member equals it (`ValueSet.contains_iff_equals`),
although equality is not transitive and a set need not keep all values that were added.

Infinite numbers and "not a number" are left out for a reason: the latter is not equal to
itself.
-/

namespace FeatureFlags

/-! ## Every value equals itself -/

namespace Value

theorem numbersEqual_self {x : Number} (hx : x.isFinite = true) : numbersEqual x x = true := by
  rw [numbersEqual_iff]
  cases hinteger : integral? x with
  | some n => exact Or.inl ⟨n, rfl, rfl⟩
  | none => exact Or.inr ⟨rfl, rfl, Or.inl (Json.equals_self hx)⟩

/-- **A value whose numbers are finite equals itself.** -/
theorem equals_self {value : Value} (h : ∀ x ∈ value.numbers, x.isFinite = true) :
    value.equals value = true := by
  induction value using Value.induction with
  | number x => exact numbersEqual_self (h x (List.mem_singleton_self x))
  | array items ih =>
      refine equals_array_iff.mpr ⟨items, rfl, List.isEqv_self_iff.mpr fun item hitem => ?_⟩
      exact ih item hitem fun x hx => h x (numbers_subset_array hitem hx)
  | object fields ih =>
      refine equals_object_iff.mpr ⟨fields, rfl, List.isEqv_self_iff.mpr fun field hfield => ?_⟩
      simpa using ih field hfield fun x hx => h x (numbers_subset_object hfield hx)
  | _ => simp [equals]

theorem HasDoubles.equals_self {value : Value} (h : value.HasDoubles) :
    value.equals value = true :=
  Value.equals_self fun x hx => (h x hx).isFinite

theorem HasDoubles.hashData_eq {a b : Value} (ha : a.HasDoubles) (hb : b.HasDoubles)
    (h : a.equals b = true) : a.hashData = b.hashData :=
  hashData_eq_of_equals (hashedAlike_of_doubles ha hb) h

end Value

/-! ## Looking a value up -/

namespace ValueSet

/-- Among doubles a set passes over no member that equals the value. -/
theorem contains_iff_equals {set : ValueSet} (hset : ∀ member ∈ set.members, member.HasDoubles)
    {value : Value} (hvalue : value.HasDoubles) :
    set.contains value = true ↔ ∃ member ∈ set.members, member.equals value = true := by
  rw [contains_iff]
  refine exists_congr fun member => and_congr_right fun hmember => ?_
  exact Value.coincide_iff (Value.hashedAlike_of_doubles (hset member hmember) hvalue)

/-- What has been added is found, be it kept or left out for a member that it equals. -/
theorem contains_of_mem {values : List Value} {value : Value} (h : value ∈ values)
    (hvalue : value.equals value = true) : (ofList values).contains value = true := by
  rw [contains_iff]
  rcases kept_of_mem h with hkept | hcoincides
  · exact ⟨value, hkept, rfl, hvalue⟩
  · exact hcoincides

end ValueSet

/-- **Equality fits hashing.**  Among values whose numbers are doubles, of any nesting,
equality is reflexive and symmetric, and equal values are hashed by the same data.  So the
set of any list of such values contains a value exactly if a member that it has kept is
equal to the value.  The members are items of the list, and the set contains all items. -/
theorem equality_fits_hashing {a b : Value} (ha : a.HasDoubles) (hb : b.HasDoubles) :
    a.equals a = true ∧ a.equals b = b.equals a ∧
      (a.equals b = true → a.hashData = b.hashData) ∧
      ∀ values : List Value, (∀ value ∈ values, value.HasDoubles) →
        let set := ValueSet.ofList values
        (set.contains b = true ↔ ∃ member ∈ set.members, member.equals b = true) ∧
          set.members ⊆ values ∧ ∀ value ∈ values, set.contains value = true := by
  refine ⟨ha.equals_self, Value.equals_comm a b, ha.hashData_eq hb, ?_⟩
  intro values hvalues set
  have hkept : set.members ⊆ values := fun member hmember => ValueSet.mem_of_mem_ofList hmember
  have hmembers : ∀ member ∈ set.members, member.HasDoubles :=
    fun member hmember => hvalues member (hkept hmember)
  refine ⟨ValueSet.contains_iff_equals hmembers hb, hkept, fun value hvalue => ?_⟩
  exact ValueSet.contains_of_mem hvalue (hvalues value hvalue).equals_self

/-- Two lists with an object, whose numbers differ in the last place only. -/
theorem drifted_list_found :
    let nested (x : Number) := Value.array [.object [("x", .number x)], .boolean true]
    let a := nested (Number.nearestDouble (30000000000000004 / 100000000000000000))
    let b := nested (Number.nearestDouble (3 / 10))
    a.HasDoubles ∧ b.HasDoubles ∧ a.numbers ≠ b.numbers ∧ a.equals b = true ∧
      a.hashData = b.hashData ∧ (ValueSet.ofList [.null, a]).contains b = true := by
  intro nested a b
  have hnested (q : ℚ) (h : (Number.nearestDouble q).isFinite = true) :
      (nested (Number.nearestDouble q)).HasDoubles := by
    intro x hx
    rw [List.mem_singleton.mp hx]
    exact Number.isDouble_nearestDouble h
  have ha : a.HasDoubles := hnested _ (by decide +kernel)
  have hb : b.HasDoubles := hnested _ (by decide +kernel)
  have hnull : Value.null.HasDoubles := nofun
  have hequal : a.equals b = true := by decide +kernel
  obtain ⟨-, -, hdata, hsets⟩ := equality_fits_hashing ha hb
  obtain ⟨hcontains, -, -⟩ := hsets [.null, a] (by simp [hnull, ha])
  refine ⟨ha, hb, by decide +kernel, hequal, hdata hequal, hcontains.mpr ⟨a, ?_, hequal⟩⟩
  have hdistinct : ValueSet.Distinct [.null, a] := by
    refine List.pairwise_pair.mpr ?_
    rintro ⟨-, hcontra⟩
    cases hcontra
  rw [ValueSet.ofList_of_distinct hdistinct]
  exact List.mem_cons_of_mem _ (List.mem_singleton_self a)

end FeatureFlags

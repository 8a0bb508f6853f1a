import FeatureFlags.Proofs.Condition.Clauses
import FeatureFlags.Proofs.Value.Tolerance

/-!
# Membership in groups and in lists

`$inGroup` looks a value up in a set, and `$in` goes through the list that the set was
decoded from.  The set has left out every item that equals an item it has kept.  If
equality were transitive this would make no difference.  Tolerant equality is not: a value
can lie within the tolerance of an item that was left out, but not of the one that was
kept in its place, and then it is in the list and not in the group.

This is the only difference.  The group never has members that the list does not have, and
it misses a value exactly if it has passed over every item that the value equals
(`inGroup_eq_isIn_iff`).  The hash data of a value plays no part in this as long as its
numbers are doubles.
-/

namespace FeatureFlags

/-! ## What is looked for -/

/-- The values of which one has to be found for a value to belong: the primitive items of
an array, and any other value itself. -/
def Value.probes : Value → List Value
  | unknown => []
  | array items => items.filter isPrimitive
  | value => [value]

theorem Value.belongs_eq_any_probes (value : Value) (contains : Value → Bool) :
    value.belongs contains = value.probes.any contains := by
  cases value with
  | unknown => rfl
  | array items => rw [belongs, probes, List.any_filter]
  | _ => simp [belongs, probes]

theorem Value.mem_numbers_of_probe {value probe : Value} (hprobe : probe ∈ value.probes)
    {x : Number} (hx : x ∈ probe.numbers) : x ∈ value.numbers := by
  cases value with
  | unknown => cases hprobe
  | array items => exact mem_itemsNumbers.mpr ⟨probe, List.mem_of_mem_filter hprobe, hx⟩
  | _ => rwa [List.mem_singleton.mp hprobe] at hx

/-! ## Groups that are read -/

namespace ValueSet

/-- A group that is read off an array is the set of the array's items. -/
theorem decode_of_toJson? {draft : Json.Draft} {items : List Json}
    (hdraft : draft.toJson? = some (.array items)) :
    decode draft = some (ofList (Value.ofItems items)) := by
  cases draft with
  | array drafts =>
      obtain ⟨settled, hsettled, heq⟩ := Json.Draft.toJson?_array_eq_some_iff.mp hdraft
      cases heq
      have hitems : drafts.mapM Value.decode = some (Value.ofItems items) := by
        rw [List.mapM_eq_some_iff, Value.ofItems_eq_map, List.forall₂_map_right_iff]
        exact hsettled.imp fun item json hitem => by rw [Value.decode, hitem, Option.map_some]
      rw [decode, Json.Decoder.list, hitems]
      rfl
  | object members =>
      obtain ⟨settled, -, heq⟩ := Option.map_eq_some_iff.mp hdraft
      cases heq
  | _ => cases hdraft

/-! ## Values that are in the list and not in the group -/

section PassedOver

variable {values : List Value} {value : Value}

/-- The value equals items of the list, and the set has none of these to show for it: either
it does not take the item for the value, or it has kept another one in the item's place which
it does not take for the value. -/
def PassesOver (set : ValueSet) (values : List Value) (value : Value) : Prop :=
  (∃ probe ∈ value.probes, ∃ item ∈ values, item.equals probe = true) ∧
    ∀ probe ∈ value.probes, ∀ item ∈ values, item.equals probe = true →
      ¬item.Coincide probe ∨
        ∃ kept ∈ set.members, kept.Coincide item ∧ ¬kept.Coincide probe

theorem inList_iff : value.inList values = true ↔
    ∃ probe ∈ value.probes, ∃ item ∈ values, item.equals probe = true := by
  simp [Value.inList, Value.belongs_eq_any_probes]

theorem belongs_iff {set : ValueSet} : value.belongs set.contains = true ↔
    ∃ probe ∈ value.probes, ∃ member ∈ set.members, member.Coincide probe := by
  simp [Value.belongs_eq_any_probes, contains_iff]

/-- The set has no other members than the list. -/
theorem inList_of_belongs (h : value.belongs (ofList values).contains = true) :
    value.inList values = true := by
  obtain ⟨probe, hprobe, member, hmember, hcoincide⟩ := belongs_iff.mp h
  exact inList_iff.mpr ⟨probe, hprobe, member, mem_of_mem_ofList hmember, hcoincide.2⟩

/-- **A value is missed exactly if every item that it equals has been passed over.** -/
theorem belongs_eq_inList_iff : value.belongs (ofList values).contains = value.inList values ↔
    ¬(ofList values).PassesOver values value := by
  constructor
  · rintro hagree ⟨hfound, hpassed⟩
    rw [inList_iff.mpr hfound] at hagree
    obtain ⟨probe, hprobe, member, hmember, hcoincide⟩ := belongs_iff.mp hagree
    rcases hpassed probe hprobe member (mem_of_mem_ofList hmember) hcoincide.2 with
      hdifferent | ⟨kept, hkept, hsame, hdifferent⟩
    · exact hdifferent hcoincide
    · -- a member is kept in nobody's place but its own
      rw [(distinct_ofList values).eq_of_coincide hkept hmember hsame] at hdifferent
      exact hdifferent hcoincide
  · intro hnot
    cases hlist : value.inList values with
    | false => exact Bool.eq_false_iff.mpr fun h => by simp [inList_of_belongs h] at hlist
    | true =>
        have hfound := inList_iff.mp hlist
        have hseen : ∃ probe ∈ value.probes, ∃ item ∈ values, item.Coincide probe ∧
            ∀ kept ∈ (ofList values).members, kept.Coincide item → kept.Coincide probe := by
          by_contra hnone
          push Not at hnone
          refine hnot ⟨hfound, fun probe hprobe item hitem _ => ?_⟩
          by_cases hcoincide : item.Coincide probe
          · exact Or.inr (hnone probe hprobe item hitem hcoincide)
          · exact Or.inl hcoincide
        obtain ⟨probe, hprobe, item, hitem, hcoincide, hkeeps⟩ := hseen
        refine belongs_iff.mpr ⟨probe, hprobe, ?_⟩
        rcases kept_of_mem hitem with hkept | ⟨kept, hkept, hsame⟩
        · exact ⟨item, hkept, hcoincide⟩
        · exact ⟨kept, hkept, hkeeps kept hkept hsame⟩

/-- Among doubles it is equality alone that counts. -/
theorem passesOver_iff (hitems : ∀ item ∈ values, item.HasDoubles) (hvalue : value.HasDoubles) :
    (ofList values).PassesOver values value ↔
      (∃ probe ∈ value.probes, ∃ item ∈ values, item.equals probe = true) ∧
        ∀ probe ∈ value.probes, ∀ item ∈ values, item.equals probe = true →
          ∃ kept ∈ (ofList values).members, kept.equals item = true ∧
            kept.equals probe = false := by
  have hprobe {probe : Value} (h : probe ∈ value.probes) : probe.HasDoubles :=
    fun x hx => hvalue x (Value.mem_numbers_of_probe h hx)
  have hkept {kept : Value} (h : kept ∈ (ofList values).members) : kept.HasDoubles :=
    hitems kept (mem_of_mem_ofList h)
  refine and_congr_right fun _ => forall₂_congr fun probe hp => forall₃_congr fun item hi heq => ?_
  have hcoincide := Value.coincide_iff (Value.hashedAlike_of_doubles (hitems item hi) (hprobe hp))
  rw [hcoincide, heq]
  simp only [not_true_eq_false, false_or]
  refine exists_congr fun kept => and_congr_right fun hk => ?_
  rw [Value.coincide_iff (Value.hashedAlike_of_doubles (hkept hk) (hitems item hi)),
    Value.coincide_iff (Value.hashedAlike_of_doubles (hkept hk) (hprobe hp)), Bool.not_eq_true]

/-- Where all numbers on one side are integral nothing is passed over. -/
theorem not_passesOver_of_integral
    (h : value.IsIntegral ∨ ∀ item ∈ values, item.IsIntegral) :
    ¬(ofList values).PassesOver values value := by
  rintro ⟨⟨probe, hprobe, item, hitem, hequal⟩, hpassed⟩
  have hside (other : Value) (hother : other ∈ values) : other.IsIntegral ∨ probe.IsIntegral :=
    h.symm.imp (fun hitems => hitems other hother)
      fun hvalue x hx => hvalue x (Value.mem_numbers_of_probe hprobe hx)
  have hcoincide {other : Value} (hother : other ∈ values) (hequal : other.equals probe = true) :
      other.Coincide probe :=
    (Value.coincide_iff (Value.hashedAlike_of_integral (hside other hother))).mpr hequal
  rcases hpassed probe hprobe item hitem hequal with hdifferent | ⟨kept, hkept, hsame, hdifferent⟩
  · exact hdifferent (hcoincide hitem hequal)
  · have htrans := Value.equals_trans (Value.chained_of_integral (hside item hitem)) hsame.2 hequal
    exact hdifferent (hcoincide (mem_of_mem_ofList hkept) htrans)

end PassedOver

end ValueSet

/-! ## The operators -/

section Operators

variable (groups : SavedGroups) (value : Value)

theorem holds_isIn (items : List Json) :
    (Condition.compileOperator "$in" (.array items)).holds groups value =
      value.inList (Value.ofItems items) := by
  rw [Condition.compileOperator_of_isSimple (by decide)]
  rfl

theorem holds_notIn (items : List Json) :
    (Condition.compileOperator "$nin" (.array items)).holds groups value =
      !value.inList (Value.ofItems items) := by
  rw [Condition.compileOperator_of_isSimple (by decide)]
  rfl

theorem holds_inGroup (group : String) :
    (Condition.compileOperator "$inGroup" (.string group)).holds groups value =
      value.inGroup groups group := by
  rw [Condition.compileOperator_of_isSimple (by decide)]
  rfl

theorem holds_notInGroup (group : String) :
    (Condition.compileOperator "$notInGroup" (.string group)).holds groups value =
      !value.inGroup groups group := by
  rw [Condition.compileOperator_of_isSimple (by decide)]
  rfl

end Operators

/-- **A group and the list it was decoded from.**  Whatever array a group was decoded from,
its members are in the list.  The operators on the group agree with those on the list about
every value that is not passed over, and about no other.  Among doubles a value is passed
over if it equals items of the list, but each of them was left out for an equal one that the
value does not equal; this never happens if all numbers of the list, or all numbers of the
value, are integral. -/
theorem inGroup_eq_isIn_iff {draft : Json.Draft} {items : List Json} (hsound : draft.Sound)
    (hdraft : draft.toJson? = some (.array items)) :
    ∃ set, ValueSet.decode draft = some set ∧
      ∀ (groups : SavedGroups) (group : String), Dictionary.get? groups group = some set →
        ∀ value : Value,
          let holds (name : String) (operand : Json) :=
            (Condition.compileOperator name operand).holds groups value
          let agree := holds "$inGroup" (.string group) = holds "$in" (.array items) ∧
            holds "$notInGroup" (.string group) = holds "$nin" (.array items)
          let values := Value.ofItems items
          (holds "$inGroup" (.string group) = true → holds "$in" (.array items) = true) ∧
          (holds "$nin" (.array items) = true → holds "$notInGroup" (.string group) = true) ∧
          (agree ↔ ¬set.PassesOver values value) ∧
          (value.HasDoubles → (set.PassesOver values value ↔
            (∃ probe ∈ value.probes, ∃ item ∈ values, item.equals probe = true) ∧
              ∀ probe ∈ value.probes, ∀ item ∈ values, item.equals probe = true →
                ∃ kept ∈ set.members, kept.equals item = true ∧ kept.equals probe = false)) ∧
          ((value.IsIntegral ∨ ∀ item ∈ values, item.IsIntegral) → agree) := by
  refine ⟨_, ValueSet.decode_of_toJson? hdraft, fun groups group hgroup value => ?_⟩
  have hin : value.inGroup groups group =
      value.belongs (ValueSet.ofList (Value.ofItems items)).contains := by
    rw [Value.inGroup, hgroup]
  have hdoubles : ∀ item ∈ Value.ofItems items, item.HasDoubles := by
    have hregular := Json.regular_array_iff.mp (Json.Draft.regular_of_toJson? hsound hdraft)
    rw [Value.ofItems_eq_map, List.forall_mem_map]
    exact fun item hitem => Value.hasDoubles_ofJson (hregular item hitem)
  -- both sides look the same probes up, in the set and in the list it was made of
  have hagree : value.belongs (ValueSet.ofList (Value.ofItems items)).contains =
      value.inList (Value.ofItems items) ↔
        ¬(ValueSet.ofList (Value.ofItems items)).PassesOver (Value.ofItems items) value :=
    ValueSet.belongs_eq_inList_iff
  intro holds agree values
  -- from here on the operators are gone, and what is left is about the set
  simp only [holds, agree, values, holds_isIn, holds_notIn, holds_inGroup, holds_notInGroup, hin]
  refine ⟨ValueSet.inList_of_belongs, fun hnot => ?_, ?_, ValueSet.passesOver_iff hdoubles,
    fun hintegral => ?_⟩
  · rw [Bool.not_eq_true', Bool.eq_false_iff] at hnot ⊢
    exact fun hbelongs => hnot (ValueSet.inList_of_belongs hbelongs)
  · rw [← hagree]
    exact ⟨fun h => h.1, fun h => ⟨h, congrArg Bool.not h⟩⟩
  · have h := hagree.mpr (ValueSet.not_passesOver_of_integral hintegral)
    exact ⟨h, congrArg Bool.not h⟩

/-- Numbers with fractions in a list do no harm to a value that has none. -/
theorem inGroup_eq_isIn_of_seven :
    let items := [Json.float (.finite (3 / 2)), .integer 7]
    let seven := Value.number (.finite 7)
    (Json.Draft.ofJson (.array items)).Sound ∧
      (Json.Draft.ofJson (.array items)).toJson? = some (.array items) ∧ seven.IsIntegral ∧
      ∃ set, ValueSet.decode (.ofJson (.array items)) = some set ∧
        (Condition.compileOperator "$inGroup" (.string "g")).holds [("g", set)] seven =
          (Condition.compileOperator "$in" (.array items)).holds [("g", set)] seven := by
  intro items seven
  have hfraction : (Number.finite (3 / 2)).IsDouble := Or.inr ⟨3 / 2, rfl, by decide +kernel⟩
  have hword : Json.IsWord64 7 := by
    unfold Json.IsWord64
    decide
  have hsound : (Json.Draft.ofJson (.array items)).Sound := ⟨hfraction, hword, trivial⟩
  have hintegral : seven.IsIntegral := by
    intro x hx
    rw [List.mem_singleton.mp hx]
    decide
  obtain ⟨set, hset, hagrees⟩ := inGroup_eq_isIn_iff hsound rfl
  obtain ⟨-, -, -, -, hagree⟩ := hagrees [("g", set)] "g" rfl seven
  exact ⟨hsound, rfl, hintegral, set, hset, (hagree (Or.inl hintegral)).1⟩

/-- The second item of the list is left out of the group, since it equals the first one.  The
value equals the second item only: it is in the list and not in the group. -/
theorem drifting_value_missed :
    let drifted (n : Int) := Number.nearestDouble (n / 1000000000)
    let items := [Json.float (drifted 1500000000), .float (drifted 1500000001)]
    let value := Value.number (drifted 1500000002)
    ∃ set, ValueSet.decode (.ofJson (.array items)) = some set ∧
      (Condition.compileOperator "$in" (.array items)).holds [("g", set)] value = true ∧
      (Condition.compileOperator "$inGroup" (.string "g")).holds [("g", set)] value = false ∧
      (Condition.compileOperator "$nin" (.array items)).holds [("g", set)] value = false ∧
      (Condition.compileOperator "$notInGroup" (.string "g")).holds [("g", set)] value = true := by
  intro drifted items value
  refine ⟨_, ValueSet.decode_of_toJson? rfl, ?_⟩
  simp only [holds_isIn, holds_notIn, holds_inGroup, holds_notInGroup]
  decide +kernel

end FeatureFlags

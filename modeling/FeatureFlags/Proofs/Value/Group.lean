import FeatureFlags.Proofs.Dictionary.Traversal
import FeatureFlags.Proofs.Value.Rereading
import FeatureFlags.Value.Group

/-!
# Sets of values written and read again

A set is written in the order of the texts of its members, not in the order in which they
were added.  When it is read again its members are therefore added in another order, and it
has to be shown that none of them is taken for a repetition of an earlier one.  For this
the two orders of a comparison must not differ: equality of values is symmetric
(`equals_comm`), the tolerant equality of numbers included.

The set that is read has the same members without the signs of zeros
(`decode_toJson`), it equals the set that was written (`same_reread`), and it is written
in the same way (`toJson_reread`).

What is added to a set is either kept or left out for a member that the set takes for the same
(`kept_of_mem`).
-/

namespace FeatureFlags

open Json (Decoder Draft Regular)

/-! ## Equality is symmetric -/

namespace Number

open Arithmetic (binary64)

theorem equals_comm (x y : Number) : equals x y = equals y x := by
  rcases x with p | _ | (_ | _) | _ <;> rcases y with q | _ | (_ | _) | _ <;>
    simp [equals, compare?, toRat?] <;> grind

theorem abs_neg (x : Number) : x.neg.abs = x.abs := by
  cases x with
  | finite p =>
      by_cases hp : p = 0
      · subst hp
        rfl
      · rw [neg, if_neg hp, abs, abs]
        rcases lt_or_gt_of_ne hp with hneg | hpos
        · rw [if_pos hneg, if_neg (by linarith)]
        · rw [if_pos (by linarith), if_neg (by linarith), Rat.neg_neg]
  | _ => rfl

theorem abs_nearestDouble_neg (q : ℚ) : (nearestDouble (-q)).abs = (nearestDouble q).abs := by
  rcases lt_trichotomy q 0 with hneg | rfl | hpos
  · have hopposite := nearestDouble_neg (neg_pos.mpr hneg)
    rw [Rat.neg_neg] at hopposite
    rw [hopposite, abs_neg]
  · rfl
  · rw [nearestDouble_neg hpos, abs_neg]

/-- The size of a difference is that of the rounded difference of the rationals. -/
theorem abs_sub {x y : Number} {p q : ℚ} (hx : x.toRat? = some p) (hy : y.toRat? = some q) :
    (binary64.sub x y).abs = (nearestDouble (p - q)).abs := by
  cases x with
  | finite p' =>
      cases hx
      cases y with
      | finite q' =>
          cases hy
          -- subtracting is adding the opposite, which has a sign of its own for zero
          by_cases hq : q = 0
          · simp [Arithmetic.sub, neg, hq, Arithmetic.add, toRat?, Arithmetic.round]
          · simp [Arithmetic.sub, neg, hq, Arithmetic.add, toRat?, Arithmetic.round,
              sub_eq_add_neg]
      | negativeZero =>
          cases hy
          simp [Arithmetic.sub, neg, Arithmetic.add, toRat?, Arithmetic.round]
      | _ => cases hy
  | negativeZero =>
      cases hx
      cases y with
      | finite q' =>
          cases hy
          by_cases hq : q = 0
          · rw [hq, sub_zero]
            rfl
          · simp [Arithmetic.sub, neg, hq, Arithmetic.add, toRat?, Arithmetic.round]
      | negativeZero =>
          cases hy
          simp [Arithmetic.sub, neg, Arithmetic.add, toRat?, Arithmetic.round]
      | _ => cases hy
  | _ => cases hx

theorem abs_sub_comm (x y : Number) : (binary64.sub x y).abs = (binary64.sub y x).abs := by
  have hfinite {x y : Number} {p q : ℚ} (hx : x.toRat? = some p) (hy : y.toRat? = some q) :
      (binary64.sub x y).abs = (binary64.sub y x).abs := by
    rw [abs_sub hx hy, abs_sub hy hx, ← neg_sub, abs_nearestDouble_neg]
  rcases x with _ | _ | (_ | _) | _ <;> rcases y with _ | _ | (_ | _) | _ <;>
    first
      | exact hfinite rfl rfl
      | rfl
      | simp only [Arithmetic.sub, neg]
        split <;> rfl

theorem max_abs_comm (x y : Number) : max x.abs y.abs = max y.abs x.abs := by
  have hfinite (p q : ℚ) : max (.finite p) (.finite q) = max (.finite q) (.finite p) := by
    rcases lt_trichotomy p q with hlt | rfl | hlt
    · simp [max, compare?, toRat?, hlt, hlt.ne', hlt.le]
    · rfl
    · simp [max, compare?, toRat?, hlt, hlt.ne', hlt.le]
  rcases x with _ | _ | (_ | _) | _ <;> rcases y with _ | _ | (_ | _) | _ <;>
    first | exact hfinite _ _ | rfl

end Number

namespace Value

theorem numbersEqual_comm (x y : Number) : numbersEqual x y = numbersEqual y x := by
  unfold numbersEqual
  cases integral? x <;> cases integral? y
  · simp only [withinTolerance, Number.equals_comm x y, Number.abs_sub_comm x y,
      Number.max_abs_comm x y]
  · rfl
  · rfl
  · simp [eq_comm]

/-- **Equality of values is symmetric.** -/
theorem equals_comm (a b : Value) : a.equals b = b.equals a := by
  induction a using Value.induction generalizing b with
  | number x =>
      cases b with
      | number y => exact numbersEqual_comm x y
      | _ => rfl
  | array items ih =>
      cases b with
      | array others =>
          rw [equals, equals, equalItems_eq_isEqv, equalItems_eq_isEqv, List.isEqv_comm ih]
      | _ => rfl
  | object fields ih =>
      cases b with
      | object others =>
          rw [equals, equals, equalFields_eq_isEqv, equalFields_eq_isEqv]
          refine List.isEqv_comm (fun field hfield other => ?_) others
          rw [ih field hfield]
          exact congrArg (· && _) (decide_eq_decide.mpr eq_comm)
      | _ => rfl
  | _ => cases b <;> simp [equals, eq_comm]

/-! ## Signs of zeros do not count -/

theorem numbersEqual_unsignedZero_left (x y : Number) :
    numbersEqual x.unsignedZero y = numbersEqual x y := by
  unfold numbersEqual
  rw [integral?_unsignedZero]
  cases h : integral? x with
  | some n => cases integral? y <;> rfl
  | none => rw [unsignedZero_eq_self h]

theorem equals_unsignedZeros_left (a b : Value) : a.unsignedZeros.equals b = a.equals b := by
  induction a using Value.induction generalizing b with
  | number x =>
      cases b with
      | number y => exact numbersEqual_unsignedZero_left x y
      | _ => rfl
  | array items ih =>
      cases b with
      | array others =>
          rw [unsignedZeros, equals, equals, equalItems_eq_isEqv, equalItems_eq_isEqv,
            itemsUnsignedZeros_eq_map, List.isEqv_map_left ih]
      | _ => rfl
  | object fields ih =>
      cases b with
      | object others =>
          rw [unsignedZeros, equals, equals, equalFields_eq_isEqv, equalFields_eq_isEqv,
            fieldsUnsignedZeros_eq_map]
          refine List.isEqv_map_left (fun field hfield other => ?_) others
          rw [ih field hfield]
      | _ => rfl
  | _ => rfl

theorem equals_unsignedZeros_right (a b : Value) : a.equals b.unsignedZeros = a.equals b := by
  rw [equals_comm, equals_unsignedZeros_left, equals_comm]

theorem numberHashData_unsignedZero (x : Number) :
    numberHashData x.unsignedZero = numberHashData x := by
  unfold numberHashData
  rw [integral?_unsignedZero]
  cases h : integral? x with
  | some n => rfl
  | none => rw [unsignedZero_eq_self h]

/-- The hash data of a list, from those of its items. -/
theorem hashData_array (items : List Value) :
    (array items).hashData =
      .kind "array" :: .length (items.map hashData).length :: (items.map hashData).flatten := by
  have hitems : itemsHashData items = (items.map hashData).flatten := by
    induction items with
    | nil => rfl
    | cons item rest ih => rw [itemsHashData, ih, List.map_cons, List.flatten_cons]
  rw [hashData, hitems, List.length_map]

/-- The hash data of a field: its name and the data of its value. -/
def fieldHashData (field : String × Value) : List HashItem := .text field.1 :: field.2.hashData

theorem hashData_object (fields : List (String × Value)) :
    (object fields).hashData = .kind "object" :: .length (fields.map fieldHashData).length ::
      (fields.map fieldHashData).flatten := by
  have hfields : fieldsHashData fields = (fields.map fieldHashData).flatten := by
    induction fields with
    | nil => rfl
    | cons field rest ih => rw [fieldsHashData, ih, List.map_cons, List.flatten_cons]; rfl
  rw [hashData, hfields, List.length_map]

theorem hashData_unsignedZeros (value : Value) : value.unsignedZeros.hashData = value.hashData := by
  induction value using Value.induction with
  | number x => exact congrArg (HashItem.kind "number" :: ·) (numberHashData_unsignedZero x)
  | array items ih =>
      have hitems : (items.map unsignedZeros).map hashData = items.map hashData := by
        rw [List.map_map]
        exact List.map_congr_left ih
      rw [unsignedZeros, itemsUnsignedZeros_eq_map, hashData_array, hashData_array, hitems]
  | object fields ih =>
      have hfields : (fields.map fun field => (field.1, field.2.unsignedZeros)).map fieldHashData =
          fields.map fieldHashData := by
        rw [List.map_map]
        exact List.map_congr_left fun field hfield => congrArg (_ :: ·) (ih field hfield)
      rw [unsignedZeros, fieldsUnsignedZeros_eq_map, hashData_object, hashData_object, hfields]
  | _ => rfl

/-! ## Members of a set -/

/-- A set takes two values for one: they have the same hash data and are equal. -/
def Coincide (a b : Value) : Prop := a.hashData = b.hashData ∧ a.equals b = true

theorem Coincide.symm {a b : Value} (h : a.Coincide b) : b.Coincide a :=
  ⟨h.1.symm, by rw [equals_comm, h.2]⟩

theorem coincide_unsignedZeros_left {a b : Value} : a.unsignedZeros.Coincide b ↔ a.Coincide b := by
  unfold Coincide
  rw [hashData_unsignedZeros, equals_unsignedZeros_left]

theorem coincide_unsignedZeros_iff {a b : Value} :
    a.unsignedZeros.Coincide b.unsignedZeros ↔ a.Coincide b := by
  rw [coincide_unsignedZeros_left]
  refine ⟨fun h => ?_, fun h => ?_⟩
  · exact (coincide_unsignedZeros_left.mp h.symm).symm
  · exact (coincide_unsignedZeros_left.mpr h.symm).symm

end Value

namespace ValueSet

theorem contains_iff {set : ValueSet} {value : Value} :
    set.contains value = true ↔ ∃ member ∈ set.members, member.Coincide value := by
  simp [contains, Value.Coincide]

/-- No member of the set is a repetition of an earlier one. -/
def Distinct (members : List Value) : Prop :=
  members.Pairwise fun earlier later => ¬earlier.Coincide later

/-- An order does not matter to being distinct. -/
theorem distinct_perm {members others : List Value} (hperm : members.Perm others) :
    Distinct members ↔ Distinct others :=
  List.Perm.pairwise_iff (fun h hcoincide => h hcoincide.symm) hperm

theorem distinct_unsignedZeros {members : List Value} (h : Distinct members) :
    Distinct (members.map Value.unsignedZeros) := by
  refine List.pairwise_map.mpr (h.imp fun hdifferent hcoincide => ?_)
  exact hdifferent (Value.coincide_unsignedZeros_iff.mp hcoincide)

theorem Distinct.insert {set : ValueSet} (h : Distinct set.members) (value : Value) :
    Distinct (set.insert value).members := by
  unfold ValueSet.insert
  split
  · exact h
  · rename_i hnew
    refine List.pairwise_append.mpr ⟨h, List.pairwise_singleton _ _, ?_⟩
    intro member hmember other hother hcoincide
    rw [List.mem_singleton.mp hother] at hcoincide
    exact hnew (contains_iff.mpr ⟨member, hmember, hcoincide⟩)

theorem mem_insert {set : ValueSet} {value member : Value}
    (h : member ∈ (set.insert value).members) : member ∈ set.members ∨ member = value := by
  unfold insert at h
  split at h
  · exact Or.inl h
  · simpa using h

/-- A set that is built by adding values consists of some of them, none twice. -/
theorem foldl_insert {values : List Value} {set : ValueSet} (h : Distinct set.members) :
    Distinct (values.foldl insert set).members ∧
      ∀ member ∈ (values.foldl insert set).members, member ∈ set.members ∨ member ∈ values := by
  induction values generalizing set with
  | nil => exact ⟨h, fun member hmember => Or.inl hmember⟩
  | cons value rest ih =>
      obtain ⟨hdistinct, hmembers⟩ := ih (h.insert value)
      refine ⟨hdistinct, fun member hmember => ?_⟩
      rcases hmembers member hmember with hset | hrest
      · rcases mem_insert hset with hset | rfl
        · exact Or.inl hset
        · exact Or.inr (List.mem_cons_self ..)
      · exact Or.inr (List.mem_cons_of_mem _ hrest)

theorem distinct_ofList (values : List Value) : Distinct (ofList values).members :=
  (@foldl_insert values empty List.Pairwise.nil).1

theorem mem_of_mem_ofList {values : List Value} {member : Value}
    (h : member ∈ (ofList values).members) : member ∈ values := by
  rcases (@foldl_insert values empty List.Pairwise.nil).2 member h with hnothing | hmember
  · cases hnothing
  · exact hmember

/-- Values that are all different are all kept. -/
theorem ofList_of_distinct {values : List Value} (h : Distinct values) :
    ofList values = ⟨values⟩ := by
  have hfold {base rest : List Value} (h : Distinct (base ++ rest)) :
      rest.foldl insert ⟨base⟩ = ⟨base ++ rest⟩ := by
    induction rest generalizing base with
    | nil => simp
    | cons value rest ih =>
        have hnew : ¬contains ⟨base⟩ value = true := by
          rw [contains_iff]
          rintro ⟨member, hmember, hcoincide⟩
          have hlater := (List.pairwise_append.mp h).2.2 member hmember value
          exact hlater (List.mem_cons_self ..) hcoincide
        have hassoc : base ++ value :: rest = (base ++ [value]) ++ rest := by simp
        rw [List.foldl_cons, insert, if_neg hnew, hassoc]
        exact ih (hassoc ▸ h)
  exact hfold h

/-! ## What a set keeps -/

theorem members_subset_insert (set : ValueSet) (value : Value) :
    set.members ⊆ (set.insert value).members := by
  unfold insert
  split
  · exact List.Subset.refl _
  · exact List.subset_append_left _ _

theorem members_subset_foldl (values : List Value) (set : ValueSet) :
    set.members ⊆ (values.foldl insert set).members := by
  induction values generalizing set with
  | nil => exact List.Subset.refl _
  | cons value rest ih => exact List.Subset.trans (members_subset_insert set value) (ih _)

/-- What is added is kept, unless there is a member it coincides with. -/
theorem kept_of_insert (set : ValueSet) (value : Value) :
    value ∈ (set.insert value).members ∨
      ∃ kept ∈ (set.insert value).members, kept.Coincide value := by
  unfold insert
  split
  · rename_i hcontains
    exact Or.inr (contains_iff.mp hcontains)
  · exact Or.inl (List.mem_append_right _ (List.mem_singleton_self value))

theorem kept_of_foldl {values : List Value} {value : Value} (h : value ∈ values)
    (set : ValueSet) : value ∈ (values.foldl insert set).members ∨
      ∃ kept ∈ (values.foldl insert set).members, kept.Coincide value := by
  induction values generalizing set with
  | nil => cases h
  | cons first rest ih =>
      rcases List.mem_cons.mp h with rfl | hrest
      · have hlater := members_subset_foldl rest (set.insert value)
        rcases kept_of_insert set value with hkept | ⟨kept, hkept, hcoincide⟩
        · exact Or.inl (hlater hkept)
        · exact Or.inr ⟨kept, hlater hkept, hcoincide⟩
      · exact ih hrest (set.insert first)

/-- Every item of the list is a member of the set, or coincides with one. -/
theorem kept_of_mem {values : List Value} {value : Value} (h : value ∈ values) :
    value ∈ (ofList values).members ∨ ∃ kept ∈ (ofList values).members, kept.Coincide value :=
  kept_of_foldl h empty

/-- Members without repetitions that coincide are the same. -/
theorem Distinct.eq_of_coincide {members : List Value} (h : Distinct members) {a b : Value}
    (ha : a ∈ members) (hb : b ∈ members) (hab : a.Coincide b) : a = b := by
  have hsymm : Std.Symm fun a b : Value => ¬a.Coincide b :=
    ⟨fun _ _ hdifferent hcoincide => hdifferent hcoincide.symm⟩
  by_contra hne
  exact List.Pairwise.forall h ha hb hne hab

/-! ## Sets written and read again -/

/-- The order in which members are written. -/
def writtenBefore (a b : Value) : Bool := a.toJson.text ≤ b.toJson.text

/-- What a set becomes by being written and read again. -/
def reread (set : ValueSet) : ValueSet :=
  ⟨(set.members.mergeSort writtenBefore).map Value.unsignedZeros⟩

theorem toJson_eq (set : ValueSet) :
    set.toJson = .array ((set.members.mergeSort writtenBefore).map Value.toJson) := by
  have hsort : (set.members.mergeSort writtenBefore).map
      (fun member => (member.toJson.text, member.toJson)) =
        (set.members.map fun member => (member.toJson.text, member.toJson)).mergeSort
          fun a b => a.1 ≤ b.1 :=
    List.map_mergeSort fun _ _ _ _ => rfl
  rw [toJson, ← hsort, List.map_map]
  rfl

/-- The members of a set without the signs of zeros are written in the same way. -/
theorem toJson_reread (set : ValueSet) : set.reread.toJson = set.toJson := by
  have hsorted : (set.reread.members).Pairwise fun a b => writtenBefore a b = true := by
    refine List.pairwise_map.mpr ?_
    simp only [writtenBefore, Value.toJson_unsignedZeros]
    refine List.pairwise_mergeSort (fun a b c hab hbc => ?_) (fun a b => ?_) set.members
    · exact decide_eq_true (String.le_trans (of_decide_eq_true hab) (of_decide_eq_true hbc))
    · simpa [writtenBefore] using String.le_total a.toJson.text b.toJson.text
  rw [toJson_eq, toJson_eq, List.mergeSort_of_pairwise hsorted, reread, List.map_map]
  exact congrArg Json.array (List.map_congr_left fun member _ => Value.toJson_unsignedZeros member)

/-- Two sets have the same number of members, and those of the first are in the second. -/
def same (a b : ValueSet) : Bool := a.size = b.size && a.members.all b.contains

theorem contains_reread (set : ValueSet) (value : Value) :
    set.reread.contains value = set.contains value := by
  have hperm := List.mergeSort_perm set.members writtenBefore
  refine Bool.eq_iff_iff.mpr ?_
  simp only [contains_iff, reread, List.mem_map, exists_exists_and_eq_and, hperm.mem_iff,
    Value.coincide_unsignedZeros_left]

/-- A set is equal to what it becomes if it is equal to the set itself. -/
theorem same_reread_right (a b : ValueSet) : a.same b.reread = a.same b := by
  have hperm := List.mergeSort_perm b.members writtenBefore
  have hsize : b.reread.size = b.size := by
    rw [size, reread, List.length_map, hperm.length_eq, size]
  rw [same, same, hsize, funext (contains_reread b)]

/-- The members have been read off regular trees, and none of them twice. -/
structure IsRead (set : ValueSet) : Prop where
  distinct : Distinct set.members
  regular : ∀ member ∈ set.members, ∃ json : Json, json.Regular ∧ member = Value.ofJson json

namespace IsRead

variable {set : ValueSet} (h : set.IsRead)
include h

theorem decode_toJson : decode (.ofJson set.toJson) = some set.reread := by
  have hperm := List.mergeSort_perm set.members writtenBefore
  have hdistinct : Distinct set.reread.members :=
    distinct_unsignedZeros ((distinct_perm hperm).mpr h.distinct)
  have hmembers : ∀ member ∈ set.members.mergeSort writtenBefore,
      Value.decode (.ofJson member.toJson) = some member.unsignedZeros := by
    intro member hmember
    obtain ⟨json, hjson, rfl⟩ := h.regular member (hperm.mem_iff.mp hmember)
    rw [Value.decode, Json.toJson?_ofJson_of_regular (Value.regular_toJson hjson),
      Option.map_some, Value.ofJson_toJson hjson]
  have hitems : Decoder.list Value.decode (.ofJson set.toJson) = some set.reread.members := by
    rw [toJson_eq, Draft.ofJson, Draft.ofItems_eq_map, List.map_map]
    exact List.mapM_eq_some_iff.mpr (List.forall₂_map_left_iff.mpr
      (List.forall₂_map_right_iff.mpr (List.forall₂_same.mpr hmembers)))
  rw [decode, hitems, Option.map_some, ofList_of_distinct hdistinct]

theorem same_reread : set.same set.reread = true := by
  rw [same_reread_right, same, decide_eq_true rfl, Bool.true_and, List.all_eq_true]
  refine fun member hmember => contains_iff.mpr ⟨member, hmember, rfl, ?_⟩
  obtain ⟨json, hjson, rfl⟩ := h.regular member hmember
  rw [← Value.equals_unsignedZeros_right]
  exact Value.equals_unsignedZeros hjson

theorem regular_toJson : set.toJson.Regular := by
  have hperm := List.mergeSort_perm set.members writtenBefore
  rw [toJson_eq, Json.regular_array_iff, List.forall_mem_map]
  intro member hmember
  obtain ⟨json, hjson, rfl⟩ := h.regular member (hperm.mem_iff.mp hmember)
  exact Value.regular_toJson hjson

end IsRead

end ValueSet

end FeatureFlags

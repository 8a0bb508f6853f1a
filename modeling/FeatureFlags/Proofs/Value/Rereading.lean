import FeatureFlags.Proofs.Json.Regular
import FeatureFlags.Value

/-!
# Values written and read again

A value that has been read off JSON, written and read again is the same value, except that
zeros have lost their sign (`ofJson_toJson`): an integral number is written as an integer,
and among the integers there is only one zero.  The two values are equal, and both are
written alike.

Nothing else can get lost, because a number that is not integral is written as the float it
is, and an integer within 64 bits that a double stands for is rounded to this double.
-/

namespace FeatureFlags

open Json (Draft Regular IsWord64)

/-- A number without the sign of a zero. -/
def Number.unsignedZero : Number → Number
  | .negativeZero => .finite 0
  | x => x

namespace Value

/-! ## Numbers -/

section Numbers

variable {x : Number}

theorem integral?_unsignedZero (x : Number) : integral? x.unsignedZero = integral? x := by
  cases x <;> rfl

/-- A number that is not integral is no zero. -/
theorem unsignedZero_eq_self (h : integral? x = none) : x.unsignedZero = x := by
  cases x with
  | negativeZero => exact absurd h (by decide)
  | _ => rfl

theorem unsignedZero_of_integral? {n : Int} (h : integral? x = some n) :
    x.unsignedZero = .finite n ∧ n.natAbs < integralBound := by
  obtain ⟨hinteger, hbound⟩ := Option.filter_eq_some_iff.mp h
  refine ⟨?_, of_decide_eq_true hbound⟩
  have hwhole {value : Rat} (hvalue : (if value.den = 1 then some value.num else none) = some n) :
      value = n := by
    split at hvalue
    · rename_i hden
      cases hvalue
      exact Rat.ext rfl hden
    · cases hvalue
  cases x with
  | finite value => exact congrArg Number.finite (hwhole hinteger)
  | negativeZero => exact congrArg Number.finite (hwhole hinteger)
  | infinity negative => cases hinteger
  | nan => cases hinteger

/-- The integer that an integral number is written as has 64 bits. -/
theorem isWord64_of_integral? {n : Int} (h : integral? x = some n) : IsWord64 n := by
  have hbound := (unsignedZero_of_integral? h).2
  have hlimit : integralBound = 0x8000000000000000 := by decide
  unfold IsWord64
  omega

/-- An integral double is the double nearest to its integer. -/
theorem nearestDouble_of_integral? (hx : x.IsDouble) {n : Int} (h : integral? x = some n) :
    Number.nearestDouble n = x.unsignedZero := by
  have hvalue := (unsignedZero_of_integral? h).1
  rcases hx with rfl | ⟨q, rfl, hq⟩
  · have hzero : (0 : Rat) = n := Number.finite.inj hvalue
    rw [← hzero]
    rfl
  · have hinteger : q = n := Number.finite.inj hvalue
    rw [hvalue, ← hinteger, hq]

theorem ofJson_numberJson (hx : x.IsDouble) : ofJson (numberJson x) = number x.unsignedZero := by
  unfold numberJson
  cases h : integral? x with
  | some n => exact congrArg number (nearestDouble_of_integral? hx h)
  | none => simp [Json.ofNumber, hx.isFinite, ofJson, unsignedZero_eq_self h]

theorem numberJson_unsignedZero (x : Number) : numberJson x.unsignedZero = numberJson x := by
  unfold numberJson
  rw [integral?_unsignedZero]
  cases h : integral? x with
  | some n => rfl
  | none => rw [unsignedZero_eq_self h]

theorem regular_numberJson (hx : x.IsDouble) : (numberJson x).Regular := by
  unfold numberJson
  cases h : integral? x with
  | some n => exact isWord64_of_integral? h
  | none => simpa [Json.ofNumber, hx.isFinite, Regular] using hx

theorem fits_numberJson (x : Number) (depth : Nat) : (Draft.ofJson (numberJson x)).Fits depth := by
  unfold numberJson
  cases h : integral? x with
  | some n => exact isWord64_of_integral? h
  | none =>
      dsimp only [Json.ofNumber]
      split <;> simp [Draft.ofJson, Draft.Fits]

theorem numberJson_ne_null (hx : x.IsDouble) : numberJson x ≠ .null := by
  unfold numberJson
  cases h : integral? x with
  | some n => simp
  | none => simp [Json.ofNumber, hx.isFinite]

theorem numbersEqual_unsignedZero (hx : x.IsDouble) : numbersEqual x x.unsignedZero = true := by
  unfold numbersEqual
  rw [integral?_unsignedZero]
  cases h : integral? x with
  | some n => simp
  | none => simp [unsignedZero_eq_self h, Json.equals_self hx.isFinite]

end Numbers

/-! ## Trees -/

mutual

/-- A value whose zeros have no sign. -/
def unsignedZeros : Value → Value
  | null => null
  | boolean b => boolean b
  | string s => string s
  | number x => number x.unsignedZero
  | array items => array (itemsUnsignedZeros items)
  | object fields => object (fieldsUnsignedZeros fields)
  | unknown => unknown

def itemsUnsignedZeros : List Value → List Value
  | [] => []
  | item :: rest => unsignedZeros item :: itemsUnsignedZeros rest

def fieldsUnsignedZeros : List (String × Value) → List (String × Value)
  | [] => []
  | (name, value) :: rest => (name, unsignedZeros value) :: fieldsUnsignedZeros rest

end

/-- What holds of a value if it holds of what stands in it holds of every value. -/
@[elab_as_elim]
theorem induction {motive : Value → Prop} (null : motive .null) (unknown : motive .unknown)
    (boolean : ∀ b, motive (.boolean b)) (string : ∀ s, motive (.string s))
    (number : ∀ x, motive (.number x))
    (array : ∀ items, (∀ item ∈ items, motive item) → motive (.array items))
    (object : ∀ fields, (∀ field ∈ fields, motive field.2) → motive (.object fields)) :
    ∀ value, motive value :=
  @Value.rec motive (fun items => ∀ item ∈ items, motive item)
    (fun fields => ∀ field ∈ fields, motive field.2) (fun field => motive field.2)
    null boolean string number array object unknown
    (List.forall_mem_nil _) (fun _ _ hitem hrest => List.forall_mem_cons.mpr ⟨hitem, hrest⟩)
    (List.forall_mem_nil _) (fun _ _ hfield hrest => List.forall_mem_cons.mpr ⟨hfield, hrest⟩)
    fun _ _ hfield => hfield

theorem ofItems_eq_map (items : List Json) : ofItems items = items.map ofJson := by
  induction items with
  | nil => rfl
  | cons item rest ih => rw [ofItems, ih, List.map_cons]

theorem ofMembers_eq_map (members : List (String × Json)) :
    ofMembers members = members.map fun member => (member.1, ofJson member.2) := by
  induction members with
  | nil => rfl
  | cons member rest ih => rw [ofMembers, ih, List.map_cons]

theorem itemsToJson_eq_map (items : List Value) : itemsToJson items = items.map toJson := by
  induction items with
  | nil => rfl
  | cons item rest ih => rw [itemsToJson, ih, List.map_cons]

theorem fieldsToJson_eq_map (fields : List (String × Value)) :
    fieldsToJson fields = fields.map fun field => (field.1, field.2.toJson) := by
  induction fields with
  | nil => rfl
  | cons field rest ih => rw [fieldsToJson, ih, List.map_cons]

theorem itemsUnsignedZeros_eq_map (items : List Value) :
    itemsUnsignedZeros items = items.map unsignedZeros := by
  induction items with
  | nil => rfl
  | cons item rest ih => rw [itemsUnsignedZeros, ih, List.map_cons]

theorem fieldsUnsignedZeros_eq_map (fields : List (String × Value)) :
    fieldsUnsignedZeros fields = fields.map fun field => (field.1, field.2.unsignedZeros) := by
  induction fields with
  | nil => rfl
  | cons field rest ih => rw [fieldsUnsignedZeros, ih, List.map_cons]

/-- Signs of zeros are not written. -/
theorem toJson_unsignedZeros (value : Value) : value.unsignedZeros.toJson = value.toJson := by
  induction value using Value.induction with
  | number x => exact numberJson_unsignedZero x
  | array items ih =>
      rw [unsignedZeros, toJson, toJson, itemsUnsignedZeros_eq_map, itemsToJson_eq_map,
        itemsToJson_eq_map, List.map_map]
      exact congrArg Json.array (List.map_congr_left ih)
  | object fields ih =>
      rw [unsignedZeros, toJson, toJson, fieldsUnsignedZeros_eq_map, fieldsToJson_eq_map,
        fieldsToJson_eq_map, List.map_map]
      refine congrArg Json.object (List.map_congr_left fun field hfield => ?_)
      exact congrArg (Prod.mk field.1) (ih field hfield)
  | _ => rfl

/-- **A value that is written and read again has lost nothing but the signs of zeros.** -/
theorem ofJson_toJson {json : Json} (hjson : json.Regular) :
    ofJson (ofJson json).toJson = (ofJson json).unsignedZeros := by
  induction json using Json.induction with
  | integer n => exact ofJson_numberJson (Json.IsWord64.isDouble hjson)
  | float x => exact ofJson_numberJson hjson
  | array items ih =>
      have hitems := Json.regular_array_iff.mp hjson
      rw [ofJson, toJson, ofJson, unsignedZeros, ofItems_eq_map, itemsToJson_eq_map,
        ofItems_eq_map, itemsUnsignedZeros_eq_map, List.map_map, List.map_map, List.map_map]
      exact congrArg array (List.map_congr_left fun item hitem => ih item hitem (hitems item hitem))
  | object members ih =>
      have hmembers := (Json.regular_object_iff.mp hjson).2
      rw [ofJson, toJson, ofJson, unsignedZeros, ofMembers_eq_map, fieldsToJson_eq_map,
        ofMembers_eq_map, fieldsUnsignedZeros_eq_map, List.map_map, List.map_map, List.map_map]
      refine congrArg object (List.map_congr_left fun member hmember => ?_)
      exact congrArg (Prod.mk member.1) (ih member hmember (hmembers member hmember))
  | _ => rfl

/-- The tree of a value that has been read is regular. -/
theorem regular_toJson {json : Json} (hjson : json.Regular) : (ofJson json).toJson.Regular := by
  induction json using Json.induction with
  | integer n => exact regular_numberJson (Json.IsWord64.isDouble hjson)
  | float x => exact regular_numberJson hjson
  | array items ih =>
      have hitems := Json.regular_array_iff.mp hjson
      rw [ofJson, toJson, ofItems_eq_map, itemsToJson_eq_map, List.map_map,
        Json.regular_array_iff, List.forall_mem_map]
      exact fun item hitem => ih item hitem (hitems item hitem)
  | object members ih =>
      obtain ⟨hsorted, hmembers⟩ := Json.regular_object_iff.mp hjson
      rw [ofJson, toJson, ofMembers_eq_map, fieldsToJson_eq_map, List.map_map,
        Json.regular_object_iff, List.forall_mem_map]
      refine ⟨List.pairwise_map.mpr hsorted, fun member hmember => ?_⟩
      exact ih member hmember (hmembers member hmember)
  | _ => trivial

/-- Writing a value does not nest it more deeply. -/
theorem fits_toJson {json : Json} {depth : Nat} (hfits : (Draft.ofJson json).Fits depth) :
    (Draft.ofJson (ofJson json).toJson).Fits depth := by
  induction json using Json.induction generalizing depth with
  | integer n => exact fits_numberJson _ depth
  | float x => exact fits_numberJson x depth
  | array items ih =>
      obtain ⟨hdepth, hitems⟩ := Draft.fits_array_iff.mp hfits
      rw [ofJson, toJson, ofItems_eq_map, itemsToJson_eq_map, List.map_map,
        Draft.fits_array_iff, List.forall_mem_map]
      exact ⟨hdepth, fun item hitem => ih item hitem (hitems item hitem)⟩
  | object members ih =>
      obtain ⟨hdepth, hmembers⟩ := Draft.fits_object_iff.mp hfits
      rw [ofJson, toJson, ofMembers_eq_map, fieldsToJson_eq_map, List.map_map,
        Draft.fits_object_iff, List.forall_mem_map]
      exact ⟨hdepth, fun member hmember => ih member hmember (hmembers member hmember)⟩
  | _ => trivial

/-- Only `null` is written as `null`. -/
theorem toJson_ofJson_eq_null {json : Json} (hjson : json.Regular)
    (h : (ofJson json).toJson = .null) : json = .null := by
  cases json with
  | null => rfl
  | integer n => exact absurd h (numberJson_ne_null (Json.IsWord64.isDouble hjson))
  | float x => exact absurd h (numberJson_ne_null hjson)
  | _ => cases h

/-! ## Equality -/

/-- Lists of values are compared item by item, and so are the fields of objects. -/
theorem equalItems_eq_isEqv (as bs : List Value) : equalItems as bs = as.isEqv bs equals := by
  induction as generalizing bs with
  | nil => cases bs <;> rfl
  | cons a as ih =>
      cases bs with
      | nil => rfl
      | cons b bs => rw [equalItems, ih bs, List.isEqv]

theorem equalFields_eq_isEqv (as bs : List (String × Value)) :
    equalFields as bs = as.isEqv bs fun a b => a.1 = b.1 && a.2.equals b.2 := by
  induction as generalizing bs with
  | nil => cases bs <;> rfl
  | cons a as ih =>
      cases bs with
      | nil => rfl
      | cons b bs => rw [equalFields, ih bs, List.isEqv]

/-- **A value that has been read equals itself without the signs of zeros.** -/
theorem equals_unsignedZeros {json : Json} (hjson : json.Regular) :
    (ofJson json).equals (ofJson json).unsignedZeros = true := by
  induction json using Json.induction with
  | integer n => exact numbersEqual_unsignedZero (Json.IsWord64.isDouble hjson)
  | float x => exact numbersEqual_unsignedZero hjson
  | array items ih =>
      have hitems := Json.regular_array_iff.mp hjson
      rw [ofJson, unsignedZeros, equals, equalItems_eq_isEqv, ofItems_eq_map,
        itemsUnsignedZeros_eq_map, List.isEqv_map_iff, List.forall_mem_map]
      exact fun item hitem => ih item hitem (hitems item hitem)
  | object members ih =>
      have hmembers := (Json.regular_object_iff.mp hjson).2
      rw [ofJson, unsignedZeros, equals, equalFields_eq_isEqv, ofMembers_eq_map,
        fieldsUnsignedZeros_eq_map, List.isEqv_map_iff, List.forall_mem_map]
      intro member hmember
      simpa using ih member hmember (hmembers member hmember)
  | _ => simp [ofJson, unsignedZeros, equals]

end Value

end FeatureFlags

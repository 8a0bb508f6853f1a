import FeatureFlags.Proofs.Json.Doubles
import FeatureFlags.Proofs.Json.Settling
import FeatureFlags.Proofs.Number.Order

/-!
# Regular trees

A tree is regular if its integers have 64 bits, its floats are doubles and the members of
its objects are in order.  The trees that drafts of texts settle into are regular
(`regular_of_toJson?`), and a regular tree taken as a draft settles into itself
(`toJson?_ofJson_of_regular`).

Nothing in a regular tree stands in the way of its being read back from its text, except
its nesting and floats that are not read back from theirs (`legible_of_fits`).
-/

namespace FeatureFlags.Json

open Dictionary (Sorted)

/-! ## Regular trees -/

mutual

/-- The integers have 64 bits, the floats are doubles, and the members are in order. -/
def Regular : Json → Prop
  | null => True
  | bool _ => True
  | integer n => IsWord64 n
  | float x => x.IsDouble
  | string _ => True
  | array items => ItemsRegular items
  | object members => Sorted members ∧ MembersRegular members

def ItemsRegular : List Json → Prop
  | [] => True
  | item :: rest => Regular item ∧ ItemsRegular rest

def MembersRegular : List (String × Json) → Prop
  | [] => True
  | (_, member) :: rest => Regular member ∧ MembersRegular rest

end

theorem itemsRegular_iff {items : List Json} :
    ItemsRegular items ↔ ∀ item ∈ items, item.Regular := by
  induction items with
  | nil => simp [ItemsRegular]
  | cons item rest ih => simp [ItemsRegular, ih]

theorem membersRegular_iff {members : List (String × Json)} :
    MembersRegular members ↔ ∀ member ∈ members, member.2.Regular := by
  induction members with
  | nil => simp [MembersRegular]
  | cons member rest ih => simp [MembersRegular, ih]

theorem regular_array_iff {items : List Json} :
    (array items).Regular ↔ ∀ item ∈ items, item.Regular := itemsRegular_iff

theorem regular_object_iff {members : List (String × Json)} :
    (object members).Regular ↔ Sorted members ∧ ∀ member ∈ members, member.2.Regular := by
  rw [← membersRegular_iff]
  rfl

/-- Members that are put in order make a regular object. -/
theorem regular_ofMembers {members : List (String × Json)}
    (hmembers : ∀ member ∈ members, member.2.Regular) : (ofMembers members).Regular :=
  regular_object_iff.mpr ⟨Dictionary.sorted_ofList members,
    fun member hmember => hmembers member (Dictionary.mem_of_mem_ofList hmember)⟩

/-- What is not "not a number" equals itself. -/
theorem equals_self {x : Number} (hx : x.isFinite = true) : Number.equals x x = true := by
  cases x with
  | finite value => simp [Number.equals, Number.compare?, Number.toRat?]
  | negativeZero => decide
  | infinity negative => cases hx
  | nan => cases hx

theorem sameItems_self {items : List Json} (hitems : ∀ item ∈ items, item.same item = true) :
    sameItems items items = true := by
  induction items with
  | nil => rfl
  | cons item rest ih =>
      obtain ⟨hitem, hrest⟩ := List.forall_mem_cons.mp hitems
      rw [sameItems, hitem, ih hrest, Bool.and_self]

theorem sameMembers_self {members : List (String × Json)}
    (hmembers : ∀ member ∈ members, member.2.same member.2 = true) :
    sameMembers members members = true := by
  induction members with
  | nil => rfl
  | cons member rest ih =>
      obtain ⟨hmember, hrest⟩ := List.forall_mem_cons.mp hmembers
      simp [sameMembers, hmember, ih hrest]

/-- A regular tree equals itself. -/
theorem same_self {json : Json} (hjson : json.Regular) : json.same json = true := by
  induction json using Json.induction with
  | float x => exact equals_self (Number.IsDouble.isFinite hjson)
  | array items ih =>
      have hitems := regular_array_iff.mp hjson
      exact sameItems_self fun item hitem => ih item hitem (hitems item hitem)
  | object members ih =>
      have hmembers := (regular_object_iff.mp hjson).2
      exact sameMembers_self fun member hmember => ih member hmember (hmembers member hmember)
  | _ => simp [same]

/-! ## Settled drafts -/

namespace Draft

/-- **What a sound draft settles into is regular.** -/
theorem regular_of_toJson? {draft : Draft} {json : Json} (hsound : draft.Sound)
    (h : draft.toJson? = some json) : json.Regular := by
  induction draft using Draft.induction generalizing json with
  | integer n => cases h; exact hsound
  | float x => cases h; exact hsound
  | array items ih =>
      obtain ⟨jsons, hjsons, rfl⟩ := toJson?_array_eq_some_iff.mp h
      refine regular_array_iff.mpr fun json hjson => ?_
      obtain ⟨item, hitem, hsettled⟩ := hjsons.exists_of_mem_right hjson
      exact ih item hitem (sound_array_iff.mp hsound item hitem) hsettled
  | object members ih =>
      obtain ⟨jsons, hjsons, rfl⟩ := toJson?_object_eq_some_iff.mp h
      refine regular_ofMembers fun entry hentry => ?_
      obtain ⟨member, hmember, -, hsettled⟩ := hjsons.exists_of_mem_right hentry
      exact ih member hmember (sound_object_iff.mp hsound member hmember) hsettled
  | _ => cases h <;> trivial

/-- Only `null` settles into `null`. -/
theorem eq_null_of_toJson? {draft : Draft} (h : draft.toJson? = some .null) : draft = .null := by
  cases draft with
  | null => rfl
  | array items =>
      obtain ⟨jsons, -, heq⟩ := Option.map_eq_some_iff.mp h
      cases heq
  | object members =>
      obtain ⟨jsons, -, heq⟩ := Option.map_eq_some_iff.mp h
      cases heq
  | _ => cases h

theorem fits_array_iff {depth : Nat} {items : List Json} :
    (ofJson (.array items)).Fits depth ↔
      depth < depthLimit ∧ ∀ item ∈ items, (ofJson item).Fits (depth + 1) := by
  rw [ofJson, Fits, itemsFit_iff, ofItems_eq_map, List.forall_mem_map]

theorem fits_object_iff {depth : Nat} {members : List (String × Json)} :
    (ofJson (.object members)).Fits depth ↔
      depth < depthLimit ∧ ∀ member ∈ members, (ofJson member.2).Fits (depth + 1) := by
  rw [ofJson, Fits, membersFit_iff, ofMembers_eq_map, List.forall_mem_map]

/-- What a draft settles into is not nested more deeply. -/
theorem fits_of_toJson? {draft : Draft} {json : Json} {depth : Nat} (hfits : draft.Fits depth)
    (h : draft.toJson? = some json) : (ofJson json).Fits depth := by
  induction draft using Draft.induction generalizing json depth with
  | integer n => cases h; exact hfits
  | array items ih =>
      obtain ⟨jsons, hjsons, rfl⟩ := toJson?_array_eq_some_iff.mp h
      refine fits_array_iff.mpr ⟨hfits.1, fun json hjson => ?_⟩
      obtain ⟨item, hitem, hsettled⟩ := hjsons.exists_of_mem_right hjson
      exact ih item hitem (itemsFit_iff.mp hfits.2 item hitem) hsettled
  | object members ih =>
      obtain ⟨jsons, hjsons, rfl⟩ := toJson?_object_eq_some_iff.mp h
      refine fits_object_iff.mpr ⟨hfits.1, fun entry hentry => ?_⟩
      obtain ⟨member, hmember, -, hsettled⟩ :=
        hjsons.exists_of_mem_right (Dictionary.mem_of_mem_ofList hentry)
      exact ih member hmember (membersFit_iff.mp hfits.2 member hmember) hsettled
  | _ => cases h <;> trivial

end Draft

/-- **A regular tree settles into itself.** -/
theorem toJson?_ofJson_of_regular {json : Json} (hjson : json.Regular) :
    (Draft.ofJson json).toJson? = some json := by
  induction json using Json.induction with
  | array items ih =>
      have hitems := regular_array_iff.mp hjson
      exact Draft.toJson?_ofJson_array fun item hitem => ih item hitem (hitems item hitem)
  | object members ih =>
      obtain ⟨hsorted, hmembers⟩ := regular_object_iff.mp hjson
      exact Draft.toJson?_ofJson_object hsorted fun member hmember =>
        ih member hmember (hmembers member hmember)
  | _ => rfl

/-- A regular tree is a sound draft. -/
theorem sound_ofJson {json : Json} (hjson : json.Regular) : (Draft.ofJson json).Sound := by
  induction json using Json.induction with
  | integer n => exact hjson
  | float x => exact hjson
  | array items ih =>
      have hitems := regular_array_iff.mp hjson
      rw [Draft.ofJson, Draft.sound_array_iff, Draft.ofItems_eq_map, List.forall_mem_map]
      exact fun item hitem => ih item hitem (hitems item hitem)
  | object members ih =>
      have hmembers := (regular_object_iff.mp hjson).2
      rw [Draft.ofJson, Draft.sound_object_iff, Draft.ofMembers_eq_map, List.forall_mem_map]
      exact fun member hmember => ih member hmember (hmembers member hmember)
  | _ => trivial

/-! ## Texts of regular trees -/

mutual

/-- Every float of the tree is read back from its text. -/
def FloatsReadBack : Json → Prop
  | null => True
  | bool _ => True
  | integer _ => True
  | float x => x.ReadsBack
  | string _ => True
  | array items => ItemsReadBack items
  | object members => MembersReadBack members

def ItemsReadBack : List Json → Prop
  | [] => True
  | item :: rest => FloatsReadBack item ∧ ItemsReadBack rest

def MembersReadBack : List (String × Json) → Prop
  | [] => True
  | (_, member) :: rest => FloatsReadBack member ∧ MembersReadBack rest

end

theorem itemsReadBack_iff {items : List Json} :
    ItemsReadBack items ↔ ∀ item ∈ items, item.FloatsReadBack := by
  induction items with
  | nil => simp [ItemsReadBack]
  | cons item rest ih => simp [ItemsReadBack, ih]

theorem membersReadBack_iff {members : List (String × Json)} :
    MembersReadBack members ↔ ∀ member ∈ members, member.2.FloatsReadBack := by
  induction members with
  | nil => simp [MembersReadBack]
  | cons member rest ih => simp [MembersReadBack, ih]

/-- The number of a draft that is a float. -/
def Draft.float? : Draft → Option Number
  | float x => some x
  | _ => none

theorem Draft.float?_eq_some_iff {draft : Draft} {x : Number} :
    draft.float? = some x ↔ draft = .float x := by
  cases draft <;> simp [float?]

instance (x : Number) : Decidable x.ReadsBack :=
  decidable_of_iff ((Draft.ofBytes? (float x).bytes).bind Draft.float? = some x) (by
    simp [Number.ReadsBack, Option.bind_eq_some_iff, Draft.float?_eq_some_iff])

mutual

def decideFloatsReadBack : (json : Json) → Decidable json.FloatsReadBack
  | null => isTrue trivial
  | bool _ => isTrue trivial
  | integer _ => isTrue trivial
  | float x => inferInstanceAs (Decidable x.ReadsBack)
  | string _ => isTrue trivial
  | array items => decideItemsReadBack items
  | object members => decideMembersReadBack members

def decideItemsReadBack : (items : List Json) → Decidable (ItemsReadBack items)
  | [] => isTrue trivial
  | item :: rest =>
    @instDecidableAnd _ _ (decideFloatsReadBack item) (decideItemsReadBack rest)

def decideMembersReadBack : (members : List (String × Json)) → Decidable (MembersReadBack members)
  | [] => isTrue trivial
  | (_, member) :: rest =>
    @instDecidableAnd _ _ (decideFloatsReadBack member) (decideMembersReadBack rest)

end

instance (json : Json) : Decidable json.FloatsReadBack := decideFloatsReadBack json

/-- **A tree within the limits whose floats are read back is legible.** -/
theorem legible_of_fits {json : Json} {depth : Nat} (hfits : (Draft.ofJson json).Fits depth)
    (hfloats : json.FloatsReadBack) : json.Legible depth := by
  induction json using Json.induction generalizing depth with
  | integer n => exact hfits
  | float x => exact hfloats
  | array items ih =>
      obtain ⟨hdepth, hitems⟩ := Draft.fits_array_iff.mp hfits
      have hfloats := itemsReadBack_iff.mp hfloats
      exact ⟨hdepth, legibleItems_iff.mpr fun item hitem =>
        ih item hitem (hitems item hitem) (hfloats item hitem)⟩
  | object members ih =>
      obtain ⟨hdepth, hmembers⟩ := Draft.fits_object_iff.mp hfits
      have hfloats := membersReadBack_iff.mp hfloats
      exact ⟨hdepth, legibleMembers_iff.mpr fun member hmember =>
        ih member hmember (hmembers member hmember) (hfloats member hmember)⟩
  | _ => trivial

-- The trees that are written for records are not to be unfolded for the sake of this condition.
attribute [irreducible] FloatsReadBack

end FeatureFlags.Json

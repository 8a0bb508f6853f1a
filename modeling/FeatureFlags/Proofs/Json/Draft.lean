import FeatureFlags.Json.Draft
import FeatureFlags.Proofs.Dictionary.Traversal

/-!
# Drafts and trees part by part

The functions on drafts and on trees go through the items of an array and the members of an
object by recursions of their own.  These are the ordinary functions on lists: a tree is
made a draft with `map` (`Draft.ofItems_eq_map`), and a draft is settled with `mapM`
(`Draft.itemsToJson?_eq_mapM`).  So an array settles item by item and an object member by
member (`Draft.toJson?_array_eq_some_iff`, `Draft.toJson?_object_eq_some_iff`), and a proof
along a tree or a draft has one hypothesis for all of its parts (`Json.induction`,
`Draft.induction`).
-/

namespace FeatureFlags.Json

/-! ## Induction -/

/-- What holds of a tree if it holds of what stands in it holds of every tree. -/
@[elab_as_elim]
theorem induction {motive : Json → Prop} (null : motive .null) (bool : ∀ b, motive (.bool b))
    (integer : ∀ n, motive (.integer n)) (float : ∀ x, motive (.float x))
    (string : ∀ s, motive (.string s))
    (array : ∀ items, (∀ item ∈ items, motive item) → motive (.array items))
    (object : ∀ members, (∀ member ∈ members, motive member.2) → motive (.object members)) :
    ∀ json, motive json :=
  @Json.rec motive (fun items => ∀ item ∈ items, motive item)
    (fun members => ∀ member ∈ members, motive member.2) (fun member => motive member.2)
    null bool integer float string array object
    (List.forall_mem_nil _) (fun _ _ hitem hrest => List.forall_mem_cons.mpr ⟨hitem, hrest⟩)
    (List.forall_mem_nil _) (fun _ _ hmember hrest => List.forall_mem_cons.mpr ⟨hmember, hrest⟩)
    fun _ _ hmember => hmember

namespace Draft

@[elab_as_elim]
theorem induction {motive : Draft → Prop} (null : motive .null) (bool : ∀ b, motive (.bool b))
    (integer : ∀ n, motive (.integer n)) (float : ∀ x, motive (.float x))
    (string : ∀ s, motive (.string s))
    (array : ∀ items, (∀ item ∈ items, motive item) → motive (.array items))
    (object : ∀ members, (∀ member ∈ members, motive member.2) → motive (.object members))
    (malformed : motive .malformed) : ∀ draft, motive draft :=
  @Draft.rec motive (fun items => ∀ item ∈ items, motive item)
    (fun members => ∀ member ∈ members, motive member.2) (fun member => motive member.2)
    null bool integer float string array object malformed
    (List.forall_mem_nil _) (fun _ _ hitem hrest => List.forall_mem_cons.mpr ⟨hitem, hrest⟩)
    (List.forall_mem_nil _) (fun _ _ hmember hrest => List.forall_mem_cons.mpr ⟨hmember, hrest⟩)
    fun _ _ hmember => hmember

/-! ## Lists of parts -/

theorem ofItems_eq_map (items : List Json) : ofItems items = items.map ofJson := by
  induction items with
  | nil => rfl
  | cons item rest ih => rw [ofItems, ih, List.map_cons]

theorem ofMembers_eq_map (members : List (String × Json)) :
    ofMembers members = members.map fun member => (member.1, ofJson member.2) := by
  induction members with
  | nil => rfl
  | cons member rest ih => rw [ofMembers, ih, List.map_cons]

/-! ## Settling piece by piece -/

theorem itemsToJson?_eq_mapM (items : List Draft) : itemsToJson? items = items.mapM toJson? := by
  induction items with
  | nil => rfl
  | cons item rest ih =>
      rw [itemsToJson?, List.mapM_option_cons, ← ih]
      cases item.toJson? <;> cases itemsToJson? rest <;> rfl

theorem membersToJson?_eq_mapM (members : List (String × Draft)) :
    membersToJson? members = members.mapM fun member => member.2.toJson?.map (member.1, ·) := by
  induction members with
  | nil => rfl
  | cons member rest ih =>
      obtain ⟨name, member⟩ := member
      rw [membersToJson?, List.mapM_option_cons, ← ih]
      cases member.toJson? <;> cases membersToJson? rest <;> rfl

/-- A member settles and keeps its name. -/
def MemberSettles (member : String × Draft) (entry : String × Json) : Prop :=
  member.1 = entry.1 ∧ member.2.toJson? = some entry.2

theorem toJson?_array_eq_some_iff {items : List Draft} {json : Json} :
    (array items).toJson? = some json ↔ ∃ jsons,
      List.Forall₂ (fun item json => item.toJson? = some json) items jsons ∧
        .array jsons = json := by
  simp only [toJson?, itemsToJson?_eq_mapM, Option.map_eq_some_iff, List.mapM_eq_some_iff]

theorem toJson?_object_eq_some_iff {members : List (String × Draft)} {json : Json} :
    (object members).toJson? = some json ↔ ∃ jsons,
      List.Forall₂ MemberSettles members jsons ∧ .ofMembers jsons = json := by
  have hmember (member : String × Draft) (entry : String × Json) :
      member.2.toJson?.map (member.1, ·) = some entry ↔ MemberSettles member entry := by
    obtain ⟨name, json⟩ := entry
    simp [MemberSettles, Option.map_eq_some_iff, and_comm]
  simp only [toJson?, membersToJson?_eq_mapM, Option.map_eq_some_iff, List.mapM_eq_some_iff,
    hmember]

/-- Settling the members leaves their names as they are. -/
theorem names_of_settled {members : List (String × Draft)} {jsons : List (String × Json)}
    (h : List.Forall₂ MemberSettles members jsons) : jsons.map (·.1) = members.map (·.1) := by
  induction h with
  | nil => rfl
  | cons hmember hrest ih => rw [List.map_cons, List.map_cons, ih, hmember.1]

/-! ## Drafts that settle -/

/-- Nothing in the draft is malformed. -/
def Settles (draft : Draft) : Prop := ∃ json, draft.toJson? = some json

theorem settles_iff_isSome {draft : Draft} : draft.Settles ↔ draft.toJson?.isSome :=
  Option.isSome_iff_exists.symm

theorem settles_array_iff {items : List Draft} :
    (array items).Settles ↔ ∀ item ∈ items, item.Settles := by
  simp only [settles_iff_isSome, toJson?, Option.isSome_map, itemsToJson?_eq_mapM,
    List.isSome_mapM_iff]

theorem settles_object_iff {members : List (String × Draft)} :
    (object members).Settles ↔ ∀ member ∈ members, member.2.Settles := by
  simp only [settles_iff_isSome, toJson?, Option.isSome_map, membersToJson?_eq_mapM,
    List.isSome_mapM_iff]

end Draft

end FeatureFlags.Json

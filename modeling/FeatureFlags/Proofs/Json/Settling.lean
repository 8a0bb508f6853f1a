import FeatureFlags.Proofs.Json.Draft
import FeatureFlags.Proofs.Json.Limits
import FeatureFlags.Proofs.Json.Writing

/-!
# Settling a draft and writing it

A draft that has been read may hold more than the tree it settles into: parts that are
malformed, and members that others of the same name replace.  And a float of it may not be
read back from its text.  A draft with none of these is *plain* (`Draft.Plain`).  A plain
draft settles, and what is read off the text of its tree is the draft itself except for
the order of the members (`Draft.Tidied`, `tidied_of_reading`).

So if two things are read off a plain draft and off the text of its tree, and the order
of members does not matter to reading them, they are the same.
-/

namespace FeatureFlags.Json

open Text.Utf8 (Bytes)

open Dictionary (Sorted)

namespace Draft

/-! ## Plain drafts -/

mutual

/-- Nothing is malformed, no object has two members of one name, and every float is read back
from its text. -/
def Plain : Draft → Prop
  | null => True
  | bool _ => True
  | integer _ => True
  | float x => x.ReadsBack
  | string _ => True
  | array items => ItemsPlain items
  | object members => (members.map (·.1)).Nodup ∧ MembersPlain members
  | malformed => False

def ItemsPlain : List Draft → Prop
  | [] => True
  | item :: rest => Plain item ∧ ItemsPlain rest

def MembersPlain : List (String × Draft) → Prop
  | [] => True
  | (_, member) :: rest => Plain member ∧ MembersPlain rest

end

theorem itemsPlain_iff {items : List Draft} : ItemsPlain items ↔ ∀ item ∈ items, item.Plain := by
  induction items with
  | nil => simp [ItemsPlain]
  | cons item rest ih => simp [ItemsPlain, ih]

theorem membersPlain_iff {members : List (String × Draft)} :
    MembersPlain members ↔ ∀ member ∈ members, member.2.Plain := by
  induction members with
  | nil => simp [MembersPlain]
  | cons member rest ih => simp [MembersPlain, ih]

theorem settles_of_plain {draft : Draft} (hplain : draft.Plain) : draft.Settles := by
  induction draft using Draft.induction with
  | array items ih =>
      have hitems := itemsPlain_iff.mp hplain
      exact settles_array_iff.mpr fun item hitem => ih item hitem (hitems item hitem)
  | object members ih =>
      have hmembers := membersPlain_iff.mp hplain.2
      exact settles_object_iff.mpr fun member hmember =>
        ih member hmember (hmembers member hmember)
  | malformed => exact hplain.elim
  | _ => exact ⟨_, rfl⟩

/-! ## The text of the tree -/

/-- **The tree of a plain draft within the limits is legible.** -/
theorem legible_of_toJson? {draft : Draft} {json : Json} {depth : Nat} (hplain : draft.Plain)
    (hfits : draft.Fits depth) (h : draft.toJson? = some json) : json.Legible depth := by
  induction draft using Draft.induction generalizing json depth with
  | integer n => cases h; exact hfits
  | float x => cases h; exact hplain
  | array items ih =>
      obtain ⟨jsons, hjsons, rfl⟩ := toJson?_array_eq_some_iff.mp h
      refine ⟨hfits.1, legibleItems_iff.mpr fun json hjson => ?_⟩
      obtain ⟨item, hitem, hsettled⟩ := hjsons.exists_of_mem_right hjson
      exact ih item hitem (itemsPlain_iff.mp hplain item hitem)
        (itemsFit_iff.mp hfits.2 item hitem) hsettled
  | object members ih =>
      obtain ⟨jsons, hjsons, rfl⟩ := toJson?_object_eq_some_iff.mp h
      refine ⟨hfits.1, legibleMembers_iff.mpr fun entry hentry => ?_⟩
      obtain ⟨member, hmember, -, hsettled⟩ :=
        hjsons.exists_of_mem_right (Dictionary.mem_of_mem_ofList hentry)
      exact ih member hmember (membersPlain_iff.mp hplain.2 member hmember)
        (membersFit_iff.mp hfits.2 member hmember) hsettled
  | _ => cases h <;> trivial

theorem toJson?_ofJson_array {items : List Json}
    (hitems : ∀ item ∈ items, (ofJson item).toJson? = some item) :
    (ofJson (.array items)).toJson? = some (.array items) := by
  refine toJson?_array_eq_some_iff.mpr ⟨items, ?_, rfl⟩
  rw [ofItems_eq_map, List.forall₂_map_left_iff, List.forall₂_same]
  exact hitems

theorem toJson?_ofJson_object {members : List (String × Json)} (hsorted : Sorted members)
    (hmembers : ∀ entry ∈ members, (ofJson entry.2).toJson? = some entry.2) :
    (ofJson (.object members)).toJson? = some (.object members) := by
  -- the members are in order already, so putting them in order again is no change
  refine toJson?_object_eq_some_iff.mpr
    ⟨members, ?_, congrArg Json.object (Dictionary.ofList_of_sorted hsorted)⟩
  rw [ofMembers_eq_map, List.forall₂_map_left_iff, List.forall₂_same]
  exact fun entry hentry => ⟨rfl, hmembers entry hentry⟩

/-- The tree a draft settles into settles into itself. -/
theorem toJson?_ofJson {draft : Draft} {json : Json} (h : draft.toJson? = some json) :
    (ofJson json).toJson? = some json := by
  induction draft using Draft.induction generalizing json with
  | array items ih =>
      obtain ⟨jsons, hjsons, rfl⟩ := toJson?_array_eq_some_iff.mp h
      refine toJson?_ofJson_array fun json hjson => ?_
      obtain ⟨item, hitem, hsettled⟩ := hjsons.exists_of_mem_right hjson
      exact ih item hitem hsettled
  | object members ih =>
      obtain ⟨jsons, hjsons, rfl⟩ := toJson?_object_eq_some_iff.mp h
      refine toJson?_ofJson_object (Dictionary.sorted_ofList jsons) fun entry hentry => ?_
      obtain ⟨member, hmember, -, hsettled⟩ :=
        hjsons.exists_of_mem_right (Dictionary.mem_of_mem_ofList hentry)
      exact ih member hmember hsettled
  | _ => cases h <;> rfl

/-! ## Drafts with their members in order -/

/-- One draft is plain, and the other is the same with the members of its objects in order. -/
structure Tidied (draft tidy : Draft) : Prop where
  plain : draft.Plain
  settled : ∃ json, draft.toJson? = some json ∧ tidy = ofJson json

/-- A member is tidied and keeps its name. -/
def MemberTidied (member tidy : String × Draft) : Prop :=
  member.1 = tidy.1 ∧ member.2.Tidied tidy.2

/-- The text of the tree of a plain draft is read as the draft with its members in order. -/
theorem tidied_of_reading {text : Bytes} {draft : Draft} (hdraft : Draft.ofBytes? text = some draft)
    (hplain : draft.Plain) : ∃ json tidy, Json.ofBytes? text = some json ∧
      Draft.ofBytes? json.bytes = some tidy ∧ draft.Tidied tidy := by
  obtain ⟨json, hjson⟩ := settles_of_plain hplain
  have hlegible := legible_of_toJson? hplain (fits_of_ofBytes? hdraft) hjson
  refine ⟨json, ofJson json, ?_, ofBytes?_bytes hlegible, hplain, json, hjson, rfl⟩
  rw [Json.ofBytes?, hdraft]
  exact hjson

namespace Tidied

variable {tidy : Draft}

/-- Both settle into the same tree. -/
theorem toJson?_eq {draft : Draft} (h : draft.Tidied tidy) : tidy.toJson? = draft.toJson? := by
  obtain ⟨json, hjson, rfl⟩ := h.settled
  rw [toJson?_ofJson hjson, hjson]

theorem eq_of_scalar {draft : Draft} (h : draft.Tidied tidy)
    (hscalar : match draft with
      | .array _ => False
      | .object _ => False
      | _ => True) : tidy = draft := by
  obtain ⟨json, hjson, rfl⟩ := h.settled
  cases draft with
  | array items => exact hscalar.elim
  | object members => exact hscalar.elim
  | malformed => exact h.plain.elim
  | _ => cases hjson; rfl

theorem array {items : List Draft} (h : (Draft.array items).Tidied tidy) :
    ∃ others, tidy = .array others ∧ List.Forall₂ Tidied items others := by
  obtain ⟨json, hjson, rfl⟩ := h.settled
  obtain ⟨jsons, hjsons, rfl⟩ := toJson?_array_eq_some_iff.mp hjson
  refine ⟨ofItems jsons, rfl, ?_⟩
  rw [ofItems_eq_map, List.forall₂_map_right_iff]
  have hpairs := (List.forall₂_and_left _ _).mpr ⟨itemsPlain_iff.mp h.plain, hjsons⟩
  exact hpairs.imp fun item json hpair => ⟨hpair.1, json, hpair.2, rfl⟩

/-- The members of an object are tidied one by one and then put in order. -/
theorem object {members : List (String × Draft)} (h : (Draft.object members).Tidied tidy) :
    (members.map (·.1)).Nodup ∧ ∃ others ordered, tidy = .object ordered ∧ others.Perm ordered ∧
      List.Forall₂ MemberTidied members others := by
  obtain ⟨hnodup, hplain⟩ := h.plain
  obtain ⟨json, hjson, rfl⟩ := h.settled
  obtain ⟨jsons, hjsons, rfl⟩ := toJson?_object_eq_some_iff.mp hjson
  have hnames : (jsons.map (·.1)).Nodup := by
    rw [names_of_settled hjsons]
    exact hnodup
  refine ⟨hnodup, ofMembers jsons, ofMembers (Dictionary.ofList jsons), rfl, ?_, ?_⟩
  · rw [ofMembers_eq_map, ofMembers_eq_map]
    exact (Dictionary.ofList_perm hnames).symm.map _
  · rw [ofMembers_eq_map, List.forall₂_map_right_iff]
    have hpairs := (List.forall₂_and_left _ _).mpr ⟨membersPlain_iff.mp hplain, hjsons⟩
    exact hpairs.imp fun member entry hpair =>
      ⟨hpair.2.1, hpair.1, entry.2, hpair.2.2, rfl⟩

end Tidied

end Draft

end FeatureFlags.Json

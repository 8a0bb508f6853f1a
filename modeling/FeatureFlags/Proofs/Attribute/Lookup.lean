import FeatureFlags.Attribute
import FeatureFlags.Proofs.Text.Digits
import FeatureFlags.Proofs.Text.Split
import Mathlib.Data.List.Basic

/-!
# Paths lead step by step

A path is looked up one segment at a time, and a dot between two paths is a place where the
lookup can be cut in two.  What this takes is that splitting distributes over the dot
(`AttributePath.segments_append`), empty segments included: a path always has a first segment,
which is why attributes, whose lookup treats the first segment on its own, are looked up like
the object with the same entries (`Value.lookup_object`).

What a single step does is said by `Value.HasPart`: it leads to a field by its name and to an
item by a spelling of its index, and from anything else nowhere.  `Value.LeadsTo` is a path of
such steps.  A lookup finds what its path leads to, and `unknown` if it leads nowhere
(`Value.descend_eq_iff`).
-/

namespace FeatureFlags

namespace AttributePath

/-- The segments of two paths with a dot between them are those of the first path and those of
the second one. -/
theorem segments_append (first second : String) :
    segments ⟨first ++ "." ++ second⟩ = segments ⟨first⟩ ++ segments ⟨second⟩ := by
  have htext : (first ++ "." ++ second).toList = first.toList ++ '.' :: second.toList := by simp
  simp only [segments, htext]
  rw [Text.split_append_separator (decide_eq_true rfl), List.map_append]

theorem segments_ne_nil (path : AttributePath) : path.segments ≠ [] := by
  simp [segments, Text.split_ne_nil]

/-- A segment spells an index: its digits, perhaps behind zeros, and perhaps behind a plus
sign. -/
def Spells (segment : String) (index : Nat) : Prop :=
  ∃ width, segment.toList = Text.Digits.writePadded width index ∨
    segment.toList = '+' :: Text.Digits.writePadded width index

theorem index?_eq_some_iff {segment : String} {index : Nat} :
    index? segment = some index ↔ index < indexBound ∧ Spells segment index :=
  Text.Digits.readSigned?_eq_some_iff

end AttributePath

open AttributePath (Spells indexBound index?_eq_some_iff)

namespace Value

/-! ## One step -/

/-- A part of a value, under the segment that leads to it. -/
inductive HasPart : Value → String → Value → Prop
  | field {fields : List (String × Value)} {name : String} {part : Value}
      (hfield : Dictionary.get? fields name = some part) : HasPart (object fields) name part
  | item {items : List Value} {segment : String} {index : Nat} {part : Value}
      (hspells : Spells segment index) (hbound : index < indexBound)
      (hitem : items[index]? = some part) : HasPart (array items) segment part

variable {value part : Value} {segment : String}

theorem hasPart_array_iff {items : List Value} :
    (array items).HasPart segment part ↔
      ∃ index < indexBound, Spells segment index ∧ items[index]? = some part := by
  constructor
  · rintro (_ | ⟨hspells, hbound, hitem⟩)
    exact ⟨_, hbound, hspells, hitem⟩
  · rintro ⟨index, hbound, hspells, hitem⟩
    exact .item hspells hbound hitem

/-- A step leads to the part under its segment. -/
theorem child_eq_of_hasPart (h : value.HasPart segment part) : value.child segment = part := by
  cases h with
  | field hfield => rw [child, hfield, Option.getD_some]
  | item hspells hbound hitem =>
      rw [child, index?_eq_some_iff.mpr ⟨hbound, hspells⟩, Option.bind_some, hitem,
        Option.getD_some]

/-- A step leads to a part of the value, or there is none and it leads nowhere. -/
theorem child_cases (value : Value) (segment : String) :
    value.HasPart segment (value.child segment) ∨
      value.child segment = unknown ∧ ∀ part, ¬ value.HasPart segment part := by
  cases value with
  | object fields =>
      cases hfield : Dictionary.get? fields segment with
      | some part =>
          have hpart : (object fields).HasPart segment part := .field hfield
          exact Or.inl (child_eq_of_hasPart hpart ▸ hpart)
      | none =>
          refine Or.inr ⟨by rw [child, hfield, Option.getD_none], ?_⟩
          rintro part ⟨hpart⟩
          cases hfield.symm.trans hpart
  -- both steps can miss: the segment is no index, or the index is out of bounds
  | array items =>
      cases hitem : (AttributePath.index? segment).bind fun index => items[index]? with
      | some part =>
          obtain ⟨index, hindex, hpart⟩ := Option.bind_eq_some_iff.mp hitem
          obtain ⟨hbound, hspells⟩ := index?_eq_some_iff.mp hindex
          have hpart : (array items).HasPart segment part := .item hspells hbound hpart
          exact Or.inl (child_eq_of_hasPart hpart ▸ hpart)
      | none =>
          refine Or.inr ⟨by rw [child, hitem, Option.getD_none], fun part hpart => ?_⟩
          obtain ⟨index, hbound, hspells, hfound⟩ := hasPart_array_iff.mp hpart
          rw [index?_eq_some_iff.mpr ⟨hbound, hspells⟩, Option.bind_some] at hitem
          cases hitem.symm.trans hfound
  | _ => exact Or.inr ⟨rfl, nofun⟩

/-! ## A whole path -/

/-- What the segments of a path lead to. -/
inductive LeadsTo : Value → List String → Value → Prop
  | here {value : Value} : LeadsTo value [] value
  | step {value part found : Value} {segment : String} {rest : List String}
      (hpart : value.HasPart segment part) (hrest : LeadsTo part rest found) :
      LeadsTo value (segment :: rest) found

theorem leadsTo_cons_iff {rest : List String} {found : Value} :
    value.LeadsTo (segment :: rest) found ↔
      ∃ part, value.HasPart segment part ∧ part.LeadsTo rest found := by
  constructor
  · rintro (_ | ⟨hpart, hrest⟩)
    exact ⟨_, hpart, hrest⟩
  · rintro ⟨part, hpart, hrest⟩
    exact .step hpart hrest

theorem descend_append (value : Value) (first second : List String) :
    value.descend (first ++ second) = (value.descend first).descend second :=
  List.foldl_append

theorem descend_unknown (segments : List String) : unknown.descend segments = unknown := by
  induction segments with
  | nil => rfl
  | cons segment rest ih => exact ih

/-- **What a lookup finds** is what its path leads to, or else nothing. -/
theorem descend_eq_iff {segments : List String} {found : Value} :
    value.descend segments = found ↔
      value.LeadsTo segments found ∨
        found = unknown ∧ ∀ other, ¬ value.LeadsTo segments other := by
  induction segments generalizing value with
  | nil =>
      constructor
      · rintro rfl
        exact Or.inl .here
      · rintro (hhere | ⟨-, hnowhere⟩)
        · cases hhere
          rfl
        · exact absurd .here (hnowhere value)
  | cons segment rest ih =>
      -- either the first segment leads to a part, and the rest goes on from there, or to nothing
      change (value.child segment).descend rest = found ↔ _
      rcases value.child_cases segment with hpart | ⟨hchild, hnone⟩
      · have hstep (other : Value) :
            value.LeadsTo (segment :: rest) other ↔ (value.child segment).LeadsTo rest other := by
          refine leadsTo_cons_iff.trans ⟨?_, fun hrest => ⟨_, hpart, hrest⟩⟩
          rintro ⟨part, hother, hrest⟩
          rwa [child_eq_of_hasPart hother]
        simp only [hstep]
        exact ih
      · -- without a part there is no way on, and nothing is found below nothing
        have hnowhere (other : Value) : ¬ value.LeadsTo (segment :: rest) other := by
          intro hleads
          obtain ⟨part, hpart, -⟩ := leadsTo_cons_iff.mp hleads
          exact hnone part hpart
        rw [hchild, descend_unknown]
        simp only [hnowhere, not_false_eq_true, implies_true, and_true, false_or]
        exact eq_comm

/-- A lookup in an array goes by the item that its first segment is an index of. -/
theorem descend_array_eq_iff {items : List Value} {rest : List String} {found : Value}
    (hfound : found ≠ unknown) :
    (array items).descend (segment :: rest) = found ↔
      ∃ index < indexBound, Spells segment index ∧
        ∃ item, items[index]? = some item ∧ item.descend rest = found := by
  change ((array items).child segment).descend rest = found ↔ _
  constructor
  · intro hlookup
    rcases (array items).child_cases segment with hpart | ⟨hchild, -⟩
    · obtain ⟨index, hbound, hspells, hitem⟩ := hasPart_array_iff.mp hpart
      exact ⟨index, hbound, hspells, _, hitem, hlookup⟩
    · rw [hchild, descend_unknown] at hlookup
      exact absurd hlookup.symm hfound
  · rintro ⟨index, hbound, hspells, item, hitem, hlookup⟩
    rw [child_eq_of_hasPart (.item hspells hbound hitem)]
    exact hlookup

theorem lookup_append (value : Value) (first second : String) :
    value.lookup ⟨first ++ "." ++ second⟩ = (value.lookup ⟨first⟩).lookup ⟨second⟩ := by
  simp only [lookup, AttributePath.segments_append, descend_append]

/-- Attributes are looked up like the object with the same entries. -/
theorem lookup_object (attributes : Attributes) (path : AttributePath) :
    (object attributes).lookup path = Attributes.lookup attributes path := by
  obtain ⟨segment, rest, hsegments⟩ := List.exists_cons_of_ne_nil path.segments_ne_nil
  simp only [Attributes.lookup, lookup, hsegments]
  change ((object attributes).child segment).descend rest = _
  rw [child]
  cases Dictionary.get? attributes segment with
  | some part => rfl
  | none => exact descend_unknown rest

/-- **Path lookup composes.**  A lookup behind a dot goes on from what was found before it, so that
nothing is found behind a path that leads nowhere; attributes are looked up like the object with
the same entries.  What is found is what the path leads to, step by step, and an array is entered
only by a spelling of an index that is below the bound and that of an item. -/
theorem lookup_composes :
    (∀ (value : Value) (first second : String),
      value.lookup ⟨first ++ "." ++ second⟩ = (value.lookup ⟨first⟩).lookup ⟨second⟩) ∧
    (∀ (attributes : Attributes) (path : AttributePath),
      Attributes.lookup attributes path = (object attributes).lookup path) ∧
    (∀ (value : Value) (first second : String), value.lookup ⟨first⟩ = unknown →
      value.lookup ⟨first ++ "." ++ second⟩ = unknown) ∧
    (∀ (value : Value) (path : AttributePath) (found : Value),
      value.lookup path = found ↔
        value.LeadsTo path.segments found ∨
          found = unknown ∧ ∀ other, ¬ value.LeadsTo path.segments other) ∧
    ∀ (items : List Value) (path : AttributePath) (found : Value), found ≠ unknown →
      ((array items).lookup path = found ↔
        ∃ segment rest, path.segments = segment :: rest ∧
          ∃ index < indexBound, Spells segment index ∧
            ∃ item, items[index]? = some item ∧ item.descend rest = found) := by
  refine ⟨lookup_append, fun attributes path => (lookup_object attributes path).symm,
    fun value first second hnowhere => ?_, fun value path found => descend_eq_iff,
    fun items path found hfound => ?_⟩
  · rw [lookup_append, hnowhere]
    exact descend_unknown _
  · obtain ⟨segment, rest, hsegments⟩ := List.exists_cons_of_ne_nil path.segments_ne_nil
    simp only [lookup, hsegments, List.cons.injEq]
    constructor
    · intro hlookup
      exact ⟨segment, rest, ⟨rfl, rfl⟩, (descend_array_eq_iff hfound).mp hlookup⟩
    · rintro ⟨_, _, ⟨rfl, rfl⟩, hitem⟩
      exact (descend_array_eq_iff hfound).mpr hitem

/-- The second seat of a company without a plan is found behind the path to its seats, by an index
with a sign and a zero; nothing is found behind the path to its plan. -/
theorem seat_found_behind_path :
    let seats := [string "window", string "aisle"]
    let company := object [("company", object [("seats", array seats)])]
    company.lookup ⟨"company.seats" ++ "." ++ "+01"⟩ = string "aisle" ∧
      company.lookup ⟨"company.plan"⟩ = unknown ∧
      company.lookup ⟨"company.plan" ++ "." ++ "name"⟩ = unknown := by
  intro seats company
  obtain ⟨hcompose, -, hnowhere, -, harray⟩ := lookup_composes
  have hseats : company.lookup ⟨"company.seats"⟩ = array seats := by cbv
  have hplan : company.lookup ⟨"company.plan"⟩ = unknown := by cbv
  have hknown : string "aisle" ≠ unknown := by simp
  refine ⟨?_, hplan, hnowhere company _ _ hplan⟩
  rw [hcompose, hseats, harray seats ⟨"+01"⟩ (string "aisle") hknown]
  exact ⟨"+01", [], by decide +kernel, 1, by decide +kernel, ⟨2, by decide +kernel⟩, _, rfl, rfl⟩

end Value

end FeatureFlags

import FeatureFlags.Proofs.Json.Reading

/-!
# The limits of what is read

Whatever the text, the integers of a draft that is read off it have 64 bits, and no
container stands inside more than `depthLimit` others (`fits_of_ofBytes?`).  This is an
invariant of the reader, since a container is checked for the number of containers around it
when it is closed.
-/

namespace FeatureFlags.Json

open Text.Utf8 (Bytes)

namespace Draft

mutual

/-- The integers of a draft that stands inside `depth` containers have 64 bits, and it is not
nested too deeply. -/
def Fits : Nat → Draft → Prop
  | _, null => True
  | _, bool _ => True
  | _, integer n => IsWord64 n
  | _, float _ => True
  | _, string _ => True
  | depth, array items => depth < depthLimit ∧ ItemsFit (depth + 1) items
  | depth, object members => depth < depthLimit ∧ MembersFit (depth + 1) members
  | _, malformed => True

def ItemsFit : Nat → List Draft → Prop
  | _, [] => True
  | depth, item :: rest => Fits depth item ∧ ItemsFit depth rest

def MembersFit : Nat → List (String × Draft) → Prop
  | _, [] => True
  | depth, (_, member) :: rest => Fits depth member ∧ MembersFit depth rest

end

variable {depth : Nat}

theorem itemsFit_iff {items : List Draft} :
    ItemsFit depth items ↔ ∀ item ∈ items, Fits depth item := by
  induction items with
  | nil => simp [ItemsFit]
  | cons item rest ih => simp [ItemsFit, ih]

theorem membersFit_iff {members : List (String × Draft)} :
    MembersFit depth members ↔ ∀ member ∈ members, Fits depth member.2 := by
  induction members with
  | nil => simp [MembersFit]
  | cons member rest ih => simp [MembersFit, ih]

end Draft

/-- Keeping the limits inside so many containers. -/
def Invariant.fits : Invariant where
  Holds := Draft.Fits
  null _ := trivial
  bool _ _ := trivial
  string _ _ := trivial
  array hdepth hitems := ⟨hdepth, Draft.itemsFit_iff.mpr hitems⟩
  object hdepth hmembers := ⟨hdepth, Draft.membersFit_iff.mpr hmembers⟩

/-- **What is read off a text keeps the limits.** -/
theorem fits_of_ofBytes? {text : Bytes} {draft : Draft} (h : Draft.ofBytes? text = some draft) :
    draft.Fits 0 := by
  have hmalformed : Invariant.fits.ToleratesMalformed := fun _ => trivial
  have hnumbers : Invariant.fits.OfNumbers :=
    Invariant.ofNumbers_of hmalformed (fun _ hword _ => hword) fun _ _ _ _ => trivial
  exact Invariant.holds_of_ofBytes? hmalformed hnumbers h

end FeatureFlags.Json

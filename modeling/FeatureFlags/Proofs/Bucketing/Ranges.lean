import FeatureFlags.Bucketing
import FeatureFlags.Proofs.Number.Order
import Mathlib.Data.List.Forall2

/-!
# Ranges of the hash interval

Ranges are compared by the numbers that they contain: one lies within another, or two have no
number in common.  Of ranges that do not overlap at most one contains a number, so that the first
one that does is the only one; and if such ranges have grown out of others, whoever was in one of
these has stayed there (`chooseVariation_of_grows`).

Computed ranges are as many as the variations (`length_bucketRanges`).
-/

namespace FeatureFlags

/-! ## Numbers in a range -/

namespace BucketRange

/-- Every number of the first range lies in the second. -/
def Within (first second : BucketRange) : Prop :=
  ∀ x, first.contains x = true → second.contains x = true

/-- The ranges contain no common number. -/
def Disjoint (first second : BucketRange) : Prop :=
  ∀ x, ¬ (first.contains x = true ∧ second.contains x = true)

variable {first second : BucketRange}

theorem contains_iff {range : BucketRange} {x : Number} :
    range.contains x = true ↔
      ∃ start point stop, range.start.position? = some start ∧ x.position? = some point ∧
        range.stop.position? = some stop ∧ start ≤ point ∧ point < stop := by
  rw [contains, Bool.and_eq_true, Number.le_iff, Number.lt_iff]
  constructor
  · rintro ⟨⟨start, point, hstart, hpoint, hle⟩, other, stop, hother, hstop, hlt⟩
    cases hpoint.symm.trans hother
    exact ⟨start, point, stop, hstart, hpoint, hstop, hle, hlt⟩
  · rintro ⟨start, point, stop, hstart, hpoint, hstop, hle, hlt⟩
    exact ⟨⟨start, point, hstart, hpoint, hle⟩, point, stop, hpoint, hstop, hlt⟩

/-- Ranges with a common number contain the start of one of them. -/
theorem disjoint_iff :
    first.Disjoint second ↔
      ¬ (first.contains first.start = true ∧ second.contains first.start = true) ∧
        ¬ (first.contains second.start = true ∧ second.contains second.start = true) := by
  constructor
  · intro h
    exact ⟨h first.start, h second.start⟩
  · rintro ⟨hfirst, hsecond⟩ x ⟨hx, hx'⟩
    obtain ⟨start, point, stop, hstart, hpoint, hstop, hle, hlt⟩ := contains_iff.mp hx
    obtain ⟨start', point', stop', hstart', hpoint', hstop', hle', hlt'⟩ := contains_iff.mp hx'
    cases hpoint.symm.trans hpoint'
    -- The later of the two starts is at most the common number.
    rcases le_total start start' with hstarts | hstarts
    · refine hsecond ⟨?_, ?_⟩
      · exact contains_iff.mpr
          ⟨start, start', stop, hstart, hstart', hstop, hstarts, hle'.trans_lt hlt⟩
      · exact contains_iff.mpr
          ⟨start', start', stop', hstart', hstart', hstop', le_rfl, hle'.trans_lt hlt'⟩
    · refine hfirst ⟨?_, ?_⟩
      · exact contains_iff.mpr
          ⟨start, start, stop, hstart, hstart, hstop, le_rfl, hle.trans_lt hlt⟩
      · exact contains_iff.mpr
          ⟨start', start, stop', hstart', hstart, hstop', hstarts, hle.trans_lt hlt'⟩

instance : Decidable (first.Disjoint second) := decidable_of_iff _ disjoint_iff.symm

end BucketRange

/-! ## The range of a number -/

theorem lt_length_of_chooseVariation {x : Number} {ranges : List BucketRange} {variation : Nat}
    (h : chooseVariation x ranges = some variation) : variation < ranges.length := by
  obtain ⟨hlt, -⟩ := List.findIdx?_eq_some_iff_getElem.mp h
  exact hlt

theorem exists_of_chooseVariation {x : Number} {ranges : List BucketRange} {variation : Nat}
    (h : chooseVariation x ranges = some variation) :
    ∃ range ∈ ranges, range.contains x = true := by
  obtain ⟨hlt, hcontains, -⟩ := List.findIdx?_eq_some_iff_getElem.mp h
  exact ⟨_, List.getElem_mem hlt, hcontains⟩

theorem chooseVariation_cons (x : Number) (range : BucketRange) (rest : List BucketRange) :
    chooseVariation x (range :: rest) =
      if range.contains x = true then some 0 else (chooseVariation x rest).map (· + 1) :=
  List.findIdx?_cons

/-- Of ranges that do not overlap the first that contains a number is the only one. -/
theorem chooseVariation_eq_some_iff {ranges : List BucketRange}
    (hdisjoint : ranges.Pairwise BucketRange.Disjoint) {x : Number} {variation : Nat} :
    chooseVariation x ranges = some variation ↔
      ∃ range, ranges[variation]? = some range ∧ range.contains x = true := by
  induction ranges generalizing variation with
  | nil => simp [chooseVariation]
  | cons range rest ih =>
      obtain ⟨hother, hdisjoint⟩ := List.pairwise_cons.mp hdisjoint
      rw [chooseVariation_cons]
      split
      · rename_i hcontains
        cases variation with
        | zero => simp [hcontains]
        | succ later =>
            refine iff_of_false nofun ?_
            rintro ⟨found, hfound, hcontains'⟩
            exact hother found (List.mem_of_getElem? hfound) x ⟨hcontains, hcontains'⟩
      · rename_i hcontains
        cases variation with
        | zero => simp [hcontains]
        | succ later => simp [ih hdisjoint]

/-- **Ranges that grow keep their numbers.**  If ranges grow and do not overlap afterwards, then a
number that was in one of them is still in that one and in no other. -/
theorem chooseVariation_of_grows {ranges grown : List BucketRange}
    (hgrows : List.Forall₂ BucketRange.Within ranges grown)
    (hdisjoint : grown.Pairwise BucketRange.Disjoint) {x : Number} {variation : Nat}
    (h : chooseVariation x ranges = some variation) :
    chooseVariation x grown = some variation := by
  induction hgrows generalizing variation with
  | nil => exact h
  | @cons range other rest grownRest hwithin hrest ih =>
      obtain ⟨hother, hdisjoint⟩ := List.pairwise_cons.mp hdisjoint
      rw [chooseVariation_cons] at h ⊢
      split at h
      · rename_i hcontains
        rw [if_pos (hwithin x hcontains)]
        exact h
      · -- The number is in a later range, and that one does not overlap the first.
        obtain ⟨later, hlater, rfl⟩ := Option.map_eq_some_iff.mp h
        have hchosen := ih hdisjoint hlater
        obtain ⟨found, hfound, hcontains⟩ := exists_of_chooseVariation hchosen
        rw [if_neg fun hfirst => hother found hfound x ⟨hfirst, hcontains⟩, hchosen]
        rfl

/-! ## One range for each variation -/

theorem length_cumulativeRanges (arithmetic : Number.Arithmetic) (coverage start : Number)
    (weights : List Number) :
    (cumulativeRanges arithmetic coverage start weights).length = weights.length := by
  induction weights generalizing start with
  | nil => rfl
  | cons weight rest ih => exact congrArg (· + 1) (ih _)

theorem length_effectiveWeights (arithmetic : Number.Arithmetic) (count : Nat)
    (weights : Option (List Number)) :
    (effectiveWeights arithmetic count weights).length = count := by
  have hequal : (equalWeights arithmetic count).length = count := List.length_replicate
  unfold effectiveWeights
  split
  · dsimp only
    split
    · rename_i given hgiven
      simp only [Bool.and_eq_true, decide_eq_true_eq] at hgiven
      exact hgiven.1.1
    · exact hequal
  · exact hequal

/-- Computed ranges are as many as the variations. -/
theorem length_bucketRanges (arithmetic : Number.Arithmetic) (count : Nat) (coverage : Number)
    (weights : Option (List Number)) :
    (bucketRanges arithmetic count coverage weights).length = count := by
  rw [bucketRanges, length_cumulativeRanges, length_effectiveWeights]

end FeatureFlags

import FeatureFlags.Experiment
import FeatureFlags.Proofs.Text.Digits
import Mathlib.Algebra.Order.BigOperators.Group.List
import Mathlib.Algebra.Order.Ring.Nat

/-!
# Keys of variations

A variation is written as its key and read back from it, and what is read may be written again.
That the two undo each other holds for some experiments only.

Keys of entries and indices share one space of texts, in which an entry comes before an index and
the first entry before the others (`Experiment.variationIndex?_eq_some_iff`).  So a variation is
not read back if its key is that of an entry which comes first
(`Experiment.variationIndex?_variationKey_iff`).

In the other direction two things go wrong (`Experiment.variationKey_iff_of_variationIndex?`).
Entries behind the last variation are found as well, though no variation has their key.  And zeros
in front of an index do not change what it is read as: since the entries are finitely many, some
such spelling is the key of none of them, so that every variation without a key of its own is found
under a text that is not its key (`Experiment.exists_other_spelling`).

What remains are the experiments in which every variation has a key of its own, each another one,
and no further key stands behind them (`Experiment.keysRoundTrip_iff_hasDistinctKeys`).
-/

namespace FeatureFlags.Experiment

open Text.Digits (write writePadded)

variable {experiment : Experiment} {key : String} {index : Nat}

/-! ## What a key stands for -/

theorem ownKey?_eq_some_iff :
    experiment.ownKey? index = some key ↔
      ∃ h : index < experiment.details.length, experiment.details[index].key = some key := by
  rw [ownKey?, Option.bind_eq_some_iff]
  simp only [List.getElem?_eq_some_iff]
  constructor
  · rintro ⟨details, ⟨hlt, rfl⟩, hkey⟩
    exact ⟨hlt, hkey⟩
  · rintro ⟨hlt, hkey⟩
    exact ⟨_, ⟨hlt, rfl⟩, hkey⟩

/-- The key is that of an entry, and of no entry before it. -/
def IsFirstKey (experiment : Experiment) (key : String) (index : Nat) : Prop :=
  experiment.ownKey? index = some key ∧ ∀ earlier < index, experiment.ownKey? earlier ≠ some key

/-- The key is that of no entry, and a spelling of the index of a variation without a key of its
own. -/
def IsBareIndex (experiment : Experiment) (key : String) (index : Nat) : Prop :=
  (∀ entry, experiment.ownKey? entry ≠ some key) ∧
    Text.Digits.readSigned? indexBound key.toList = some index ∧
    index < experiment.variations.length ∧ experiment.ownKey? index = none

theorem findIdx?_key_eq_some_iff :
    experiment.details.findIdx? (·.key = some key) = some index ↔
      experiment.IsFirstKey key index := by
  rw [List.findIdx?_eq_some_iff_getElem, IsFirstKey, ownKey?_eq_some_iff]
  simp only [decide_eq_true_eq, ne_eq, ownKey?_eq_some_iff, not_exists]
  constructor
  · rintro ⟨hlt, hkey, hearlier⟩
    exact ⟨⟨hlt, hkey⟩, fun earlier hbefore _ => hearlier earlier hbefore⟩
  · rintro ⟨⟨hlt, hkey⟩, hearlier⟩
    exact ⟨hlt, hkey, fun earlier hbefore => hearlier earlier hbefore (hbefore.trans hlt)⟩

theorem findIdx?_key_eq_none_iff :
    experiment.details.findIdx? (·.key = some key) = none ↔
      ∀ entry, experiment.ownKey? entry ≠ some key := by
  simp only [List.findIdx?_eq_none_iff, decide_eq_false_iff_not, ne_eq, ownKey?_eq_some_iff,
    not_exists]
  constructor
  · intro hnone entry hlt
    exact hnone _ (List.getElem_mem hlt)
  · intro hnone details hdetails
    obtain ⟨entry, hlt, rfl⟩ := List.mem_iff_getElem.mp hdetails
    exact hnone entry hlt

/-- A key is looked up among the keys of entries first, and is read as an index only if it is none
of them. -/
theorem variationIndex?_eq_some_iff :
    experiment.variationIndex? key = some index ↔
      experiment.IsFirstKey key index ∨ experiment.IsBareIndex key index := by
  unfold variationIndex?
  split
  · rename_i found hfound
    have hfirst := findIdx?_key_eq_some_iff.mp hfound
    have hclaimed : ¬ experiment.IsBareIndex key index := fun hbare => hbare.1 found hfirst.1
    rw [or_iff_left hclaimed, ← findIdx?_key_eq_some_iff, hfound]
  · rename_i hunclaimed
    have hunclaimed := findIdx?_key_eq_none_iff.mp hunclaimed
    have hnotFirst : ¬ experiment.IsFirstKey key index := fun hfirst => hunclaimed index hfirst.1
    rw [or_iff_right hnotFirst, Option.filter_eq_some_iff, Bool.and_eq_true, decide_eq_true_eq,
      Option.isNone_iff_eq_none, IsBareIndex, and_iff_right hunclaimed]

/-! ## Keys that are written -/

theorem variationKey_of_some (hown : experiment.ownKey? index = some key) :
    experiment.variationKey index = key := by
  rw [variationKey, hown, Option.getD_some]

theorem variationKey_of_none (hown : experiment.ownKey? index = none) :
    experiment.variationKey index = String.ofList (write index) := by
  rw [variationKey, hown, Option.getD_none]

/-- The key of a variation is read back unless an entry before it, or any entry if it has no key of
its own, has the same key. -/
theorem variationIndex?_variationKey_iff (hsize : experiment.variations.length ≤ indexBound)
    (hindex : index < experiment.variations.length) :
    experiment.variationIndex? (experiment.variationKey index) = some index ↔
      ∀ entry, experiment.ownKey? entry = some (experiment.variationKey index) →
        (experiment.ownKey? index).isSome ∧ index ≤ entry := by
  rw [variationIndex?_eq_some_iff]
  cases hown : experiment.ownKey? index with
  | some key =>
      -- an entry with its own key is found by that key or not at all
      have hnotBare : ¬ experiment.IsBareIndex key index := fun hbare => hbare.1 index hown
      rw [variationKey_of_some hown, or_iff_left hnotBare, IsFirstKey, and_iff_right hown]
      constructor
      · intro hearlier entry hentry
        exact ⟨rfl, Nat.le_of_not_lt fun hlt => hearlier entry hlt hentry⟩
      · intro hlater earlier hlt hentry
        exact Nat.not_le_of_lt hlt (hlater earlier hentry).2
  | none =>
      -- without an own key the index is written out, and must be read back as a number
      have hread : Text.Digits.readSigned? indexBound (write index) = some index := by
        rw [← Text.Digits.writePadded_zero]
        exact Text.Digits.readSigned?_writePadded (Nat.lt_of_lt_of_le hindex hsize) 0
      have hnotFirst (key : String) : ¬ experiment.IsFirstKey key index := by
        rintro ⟨hsome, -⟩
        cases hown.symm.trans hsome
      rw [variationKey_of_none hown, or_iff_right (hnotFirst _), IsBareIndex, String.toList_ofList]
      constructor
      · rintro ⟨hunclaimed, -⟩ entry hentry
        exact absurd hentry (hunclaimed entry)
      · intro hclaimed
        refine ⟨fun entry hentry => ?_, hread, hindex, hown⟩
        cases (hclaimed entry hentry).1

/-! ## Keys that are read -/

/-- A key that is read is written again unless it belongs to an entry behind the last variation, or
spells the index of a variation with more than its digits. -/
theorem variationKey_iff_of_variationIndex? (hread : experiment.variationIndex? key = some index) :
    (index < experiment.variations.length ∧ experiment.variationKey index = key ↔
      index < experiment.variations.length ∧
        (experiment.ownKey? index = none → key = String.ofList (write index))) := by
  refine and_congr_right fun _ => ?_
  rcases variationIndex?_eq_some_iff.mp hread with hfirst | hbare
  · refine iff_of_true (variationKey_of_some hfirst.1) fun hnone => ?_
    cases hfirst.1.symm.trans hnone
  · obtain ⟨-, -, -, hnone⟩ := hbare
    rw [variationKey_of_none hnone]
    exact ⟨fun hkey _ => hkey.symm, fun hkey => (hkey hnone).symm⟩

/-- Some spelling of a number is longer than its digits and the key of no entry. -/
theorem exists_unclaimed_width (experiment : Experiment) (n : Nat) :
    ∃ width, (write n).length < width ∧
      ∀ entry, experiment.ownKey? entry ≠ some (String.ofList (writePadded width n)) := by
  let lengths := experiment.details.map fun details => (details.key.getD "").length
  refine ⟨lengths.sum + (write n).length + 1, by omega, fun entry hentry => ?_⟩
  obtain ⟨hlt, hkey⟩ := ownKey?_eq_some_iff.mp hentry
  have hmem : (experiment.details[entry].key.getD "").length ∈ lengths :=
    List.mem_map.mpr ⟨_, List.getElem_mem hlt, rfl⟩
  have hsum := List.le_sum_of_mem hmem
  have hwidth := Text.Digits.le_length_writePadded (lengths.sum + (write n).length + 1) n
  rw [hkey, Option.getD_some, String.length_ofList] at hsum
  omega

/-- A variation without a key of its own is found under a spelling that is not its key. -/
theorem exists_other_spelling (hsize : experiment.variations.length ≤ indexBound)
    (hindex : index < experiment.variations.length) (hown : experiment.ownKey? index = none) :
    ∃ key, experiment.variationIndex? key = some index ∧ experiment.variationKey index ≠ key := by
  obtain ⟨width, hlonger, hunclaimed⟩ := experiment.exists_unclaimed_width index
  refine ⟨String.ofList (writePadded width index), ?_, fun hkey => ?_⟩
  · refine variationIndex?_eq_some_iff.mpr (Or.inr ⟨hunclaimed, ?_, hindex, hown⟩)
    rw [String.toList_ofList]
    exact Text.Digits.readSigned?_writePadded (Nat.lt_of_lt_of_le hindex hsize) width
  · rw [variationKey_of_none hown] at hkey
    have hlength := Text.Digits.le_length_writePadded width index
    rw [← String.ofList_injective hkey] at hlength
    omega

/-- Every key of an entry is found. -/
theorem exists_first_entry {entry : Nat} (hentry : experiment.ownKey? entry = some key) :
    ∃ first, experiment.IsFirstKey key first := by
  cases hfound : experiment.details.findIdx? (·.key = some key) with
  | some first => exact ⟨first, findIdx?_key_eq_some_iff.mp hfound⟩
  | none => exact absurd hentry (findIdx?_key_eq_none_iff.mp hfound entry)

/-- Every key that is read is the key of a variation if and only if all variations, and
nothing behind them, have keys of their own. -/
theorem reads_only_keys_iff (hsize : experiment.variations.length ≤ indexBound) :
    (∀ key index, experiment.variationIndex? key = some index →
        index < experiment.variations.length ∧ experiment.variationKey index = key) ↔
      (∀ index < experiment.variations.length, (experiment.ownKey? index).isSome) ∧
        ∀ entry key, experiment.ownKey? entry = some key →
          ∃ index < experiment.variations.length, experiment.ownKey? index = some key := by
  constructor
  · intro hkeys
    refine ⟨fun index hindex => ?_, fun entry key hentry => ?_⟩
    · by_contra hnone
      rw [Option.not_isSome_iff_eq_none] at hnone
      obtain ⟨key, hread, hother⟩ := exists_other_spelling hsize hindex hnone
      exact hother (hkeys key index hread).2
    · obtain ⟨first, hfirst⟩ := exists_first_entry hentry
      have hread := variationIndex?_eq_some_iff.mpr (Or.inl hfirst)
      exact ⟨first, (hkeys key first hread).1, hfirst.1⟩
  · rintro ⟨hnamed, hbehind⟩ key index hread
    rcases variationIndex?_eq_some_iff.mp hread with hfirst | ⟨-, -, hindex, hnone⟩
    · -- the first entry with the key cannot lie behind a variation that has it too
      obtain ⟨variation, hvariation, hown⟩ := hbehind index key hfirst.1
      have hle : index ≤ variation :=
        Nat.le_of_not_lt fun hlt => hfirst.2 variation hlt hown
      exact ⟨Nat.lt_of_le_of_lt hle hvariation, variationKey_of_some hfirst.1⟩
    · have hsome := hnamed index hindex
      rw [hnone] at hsome
      cases hsome

/-! ## Both directions -/

/-- Every variation is read back from its key, and every text that is read is a variation's key. -/
structure KeysRoundTrip (experiment : Experiment) : Prop where
  read_written : ∀ index < experiment.variations.length,
    experiment.variationIndex? (experiment.variationKey index) = some index
  written_read : ∀ key index, experiment.variationIndex? key = some index →
    index < experiment.variations.length ∧ experiment.variationKey index = key

namespace KeysRoundTrip

theorem eq_of_variationKey_eq (h : experiment.KeysRoundTrip) {other : Nat}
    (hindex : index < experiment.variations.length) (hother : other < experiment.variations.length)
    (hkeys : experiment.variationKey index = experiment.variationKey other) : index = other := by
  have hread := h.read_written index hindex
  rw [hkeys, h.read_written other hother] at hread
  exact (Option.some.inj hread).symm

theorem eq_of_ownKey?_eq (h : experiment.KeysRoundTrip) {other : Nat}
    (hindex : index < experiment.variations.length) (hother : other < experiment.variations.length)
    (hsome : (experiment.ownKey? index).isSome)
    (hown : experiment.ownKey? index = experiment.ownKey? other) : index = other := by
  obtain ⟨key, hkey⟩ := Option.isSome_iff_exists.mp hsome
  refine h.eq_of_variationKey_eq hindex hother ?_
  rw [variationKey_of_some hkey, variationKey_of_some (hown.symm.trans hkey)]

end KeysRoundTrip

/-- All variations have keys of their own, no two the same one, and every other key of an entry is
one of theirs. -/
structure HasDistinctKeys (experiment : Experiment) : Prop where
  named : ∀ index < experiment.variations.length, (experiment.ownKey? index).isSome
  distinct : ∀ index < experiment.variations.length, ∀ other < experiment.variations.length,
    experiment.ownKey? index = experiment.ownKey? other → index = other
  covered : ∀ entry key, experiment.ownKey? entry = some key →
    ∃ index < experiment.variations.length, experiment.ownKey? index = some key

theorem HasDistinctKeys.variationIndex?_variationKey (h : experiment.HasDistinctKeys)
    (hsize : experiment.variations.length ≤ indexBound)
    (hindex : index < experiment.variations.length) :
    experiment.variationIndex? (experiment.variationKey index) = some index := by
  obtain ⟨key, hkey⟩ := Option.isSome_iff_exists.mp (h.named index hindex)
  refine (variationIndex?_variationKey_iff hsize hindex).mpr fun entry hentry =>
    ⟨h.named index hindex, Nat.le_of_not_lt fun hlt => ?_⟩
  rw [variationKey_of_some hkey, ← hkey] at hentry
  exact Nat.ne_of_lt hlt (h.distinct entry (hlt.trans hindex) index hindex hentry)

theorem keysRoundTrip_iff_hasDistinctKeys (hsize : experiment.variations.length ≤ indexBound) :
    experiment.KeysRoundTrip ↔ experiment.HasDistinctKeys := by
  constructor
  · intro h
    obtain ⟨hnamed, hcovered⟩ := (reads_only_keys_iff hsize).mp h.written_read
    exact ⟨hnamed,
      fun index hindex other hother => h.eq_of_ownKey?_eq hindex hother (hnamed index hindex),
      hcovered⟩
  · intro h
    exact ⟨fun index => h.variationIndex?_variationKey hsize,
      (reads_only_keys_iff hsize).mpr ⟨h.named, h.covered⟩⟩

/-- When variations and their keys stand for each other: for an experiment as a whole, for one
variation that is written, and for one text that is read. -/
theorem variation_keys_round_trip_iff (hsize : experiment.variations.length ≤ indexBound) :
    (experiment.KeysRoundTrip ↔ experiment.HasDistinctKeys) ∧
    (∀ index < experiment.variations.length,
      (experiment.variationIndex? (experiment.variationKey index) = some index ↔
        ∀ entry, experiment.ownKey? entry = some (experiment.variationKey index) →
          (experiment.ownKey? index).isSome ∧ index ≤ entry)) ∧
    (∀ key index, experiment.variationIndex? key = some index →
      (index < experiment.variations.length ∧ experiment.variationKey index = key ↔
        index < experiment.variations.length ∧
          (experiment.ownKey? index = none → key = String.ofList (write index)))) :=
  ⟨keysRoundTrip_iff_hasDistinctKeys hsize, fun _ => variationIndex?_variationKey_iff hsize,
    fun _ _ => variationKey_iff_of_variationIndex?⟩

/-- An experiment of some variations with entries that have the given keys, if any. -/
def ofKeys (size : Nat) (keys : List (Option String)) : Experiment where
  key := ""
  variations := List.replicate size .null
  details := keys.map fun key => ⟨key, none, false⟩

theorem named_variations_round_trip :
    (ofKeys 2 [some "control", some "treatment"]).variations.length ≤ indexBound ∧
      (ofKeys 2 [some "control", some "treatment"]).KeysRoundTrip := by
  have hsize : (ofKeys 2 [some "control", some "treatment"]).variations.length ≤ indexBound := by
    decide +kernel
  refine ⟨hsize, (variation_keys_round_trip_iff hsize).1.mpr ⟨by decide, by decide, ?_⟩⟩
  intro entry key hentry
  obtain ⟨hlt, -⟩ := ownKey?_eq_some_iff.mp hentry
  exact ⟨entry, hlt, hentry⟩

/-- An entry too many, a zero in front of an index, or a key that is repeated. -/
theorem keys_without_round_trip :
    ¬ (ofKeys 2 [some "a", some "b", some "c"]).KeysRoundTrip ∧
      ¬ (ofKeys 2 []).KeysRoundTrip ∧
      ¬ (ofKeys 2 [some "x", some "x"]).KeysRoundTrip := by
  refine ⟨fun h => ?_, fun h => ?_, fun h => ?_⟩
  · have hbehind := (h.written_read "c" 2 (by decide +kernel)).1
    exact absurd hbehind (by decide)
  · have hspelling := (h.written_read "01" 1 (by decide +kernel)).2
    exact absurd hspelling (by decide +kernel)
  · have hsecond := h.read_written 1 (by decide)
    exact absurd hsecond (by decide +kernel)

end FeatureFlags.Experiment

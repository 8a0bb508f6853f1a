import FeatureFlags.Assignment
import FeatureFlags.Proofs.Sticky.Store

/-!
# What is remembered about a user

The assignments that an experiment consults are those of two documents, the
fallback's overlaid with the primary one's.  Read through the table of entries
they are

  `recorded? key = primary's entry`, or else `fallback's entry`

(`get?_assignments`), and `memory_cases` says what an experiment makes of them:
it is blocked by an entry of a version that is too old, finds the variation that
the entry of its own version names, or finds nothing.
-/

namespace FeatureFlags

open Dictionary (Sorted)

/-- Where the document of an identity is stored. -/
def StickyService.documentKey (service : StickyService) (identity : HashIdentity) : String :=
  service.storageKey identity.name identity.value

/-- The entry of an identity's document; an identity without a text has none. -/
def StickyService.entryOf? (service : StickyService) (store : Persistence)
    (identity : HashIdentity) (entryKey : String) : Option String :=
  if identity.isEmpty then none
  else store.assignment? (service.documentKey identity) entryKey

namespace Experiment

/-- The identity of a user by the hash attribute alone. -/
def primaryIdentity (experiment : Experiment) (attributes : Attributes) : HashIdentity :=
  HashIdentity.resolve attributes experiment.hashAttribute none

/-- The identity of a user by the fallback attribute, if the experiment has one. -/
def fallbackIdentity? (experiment : Experiment) (attributes : Attributes) :
    Option HashIdentity :=
  experiment.fallbackAttribute.map fun name => HashIdentity.resolve attributes (some name) none

/-- The key under which the experiment's assignments are remembered. -/
def entryKey (experiment : Experiment) : String :=
  StickyDocument.experimentKey experiment.trackingKey experiment.effectiveBucketVersion

/-- The entry that counts for a user: the primary identity's, or else the
fallback's. -/
def recorded? (experiment : Experiment) (service : StickyService) (store : Persistence)
    (attributes : Attributes) (entryKey : String) : Option String :=
  (service.entryOf? store (experiment.primaryIdentity attributes) entryKey).or
    ((experiment.fallbackIdentity? attributes).bind fun identity =>
      service.entryOf? store identity entryKey)

end Experiment

/-! ## The two documents of a user -/

namespace StickyService

theorem sorted_assignmentsOf (service : StickyService) (store : Persistence)
    (identity : HashIdentity) : Sorted (service.assignmentsOf store identity) := by
  unfold assignmentsOf
  split
  · exact Dictionary.sorted_nil
  · cases hget : service.get store identity.name identity.value with
    | none => exact Dictionary.sorted_nil
    | some document => exact sorted_of_read hget

theorem get?_assignmentsOf (service : StickyService) (store : Persistence)
    (identity : HashIdentity) (entryKey : String) :
    Dictionary.get? (service.assignmentsOf store identity) entryKey =
      service.entryOf? store identity entryKey := by
  unfold assignmentsOf entryOf? documentKey
  split
  · rfl
  · unfold get Persistence.assignment?
    cases read store (service.storageKey identity.name identity.value) <;> rfl

theorem get?_assignments (service : StickyService) (store : Persistence)
    (attributes : Attributes) (experiment : Experiment) (entryKey : String) :
    Dictionary.get? (service.assignments store attributes experiment) entryKey =
      experiment.recorded? service store attributes entryKey := by
  unfold assignments Experiment.recorded? Experiment.primaryIdentity Experiment.fallbackIdentity?
  rw [Dictionary.get?_extend _ (service.sorted_assignmentsOf store _), get?_assignmentsOf]
  congr 1
  cases experiment.fallbackAttribute with
  | none => rfl
  | some name =>
      rw [Dictionary.get?_extend _ (service.sorted_assignmentsOf store _), get?_assignmentsOf]
      simp

end StickyService

/-- An identity with a fallback is one of two identities without. -/
theorem HashIdentity.resolve_some (attributes : Attributes) (preferred : Option String)
    (other : String) :
    resolve attributes preferred (some other) =
      if (resolve attributes preferred none).isEmpty = true ∧
          (resolve attributes (some other) none).isEmpty = false then
        resolve attributes (some other) none
      else resolve attributes preferred none := by
  unfold resolve isEmpty
  by_cases hpreferred : attributes.hashText (preferred.getD Experiment.defaultHashAttribute) = ""
    <;> by_cases hother : attributes.hashText other = "" <;> simp [hpreferred, hother]

namespace Experiment

theorem entryOf?_congr {store other : Persistence} {entryKey : String}
    (hentries : ∀ storageKey,
      store.assignment? storageKey entryKey = other.assignment? storageKey entryKey)
    (service : StickyService) (identity : HashIdentity) :
    service.entryOf? store identity entryKey = service.entryOf? other identity entryKey := by
  simp only [StickyService.entryOf?, hentries]

/-- What counts for a user under a key depends on the entries under that key alone. -/
theorem recorded?_congr {store other : Persistence} {entryKey : String}
    (hentries : ∀ storageKey,
      store.assignment? storageKey entryKey = other.assignment? storageKey entryKey)
    (experiment : Experiment) (service : StickyService) (attributes : Attributes) :
    experiment.recorded? service store attributes entryKey =
      experiment.recorded? service other attributes entryKey := by
  simp only [recorded?, entryOf?_congr hentries]

/-- A user is hashed by the primary identity, or by the fallback if only that one
has a text. -/
theorem identity_cases (experiment : Experiment) (context : Context) :
    experiment.identity context = experiment.primaryIdentity context.attributes ∨
      ((experiment.primaryIdentity context.attributes).isEmpty = true ∧
        experiment.fallbackIdentity? context.attributes =
          some (experiment.identity context)) := by
  unfold identity primaryIdentity fallbackIdentity?
  cases experiment.fallbackAttribute with
  | none => exact Or.inl rfl
  | some other =>
      rw [HashIdentity.resolve_some]
      split
      · rename_i hempty
        exact Or.inr ⟨hempty.1, rfl⟩
      · exact Or.inl rfl

/-- The entry of the identity that is hashed is the one that counts. -/
theorem recorded?_of_identity {experiment : Experiment} {context : Context}
    {service : StickyService} {store : Persistence} {entryKey value : String}
    (hentry : service.entryOf? store (experiment.identity context) entryKey = some value) :
    experiment.recorded? service store context.attributes entryKey = some value := by
  rcases experiment.identity_cases context with hprimary | ⟨hempty, hfallback⟩
  · rw [recorded?, ← hprimary, hentry]
    rfl
  · have hnone : service.entryOf? store (experiment.primaryIdentity context.attributes) entryKey =
        none := if_pos hempty
    rw [recorded?, hnone, hfallback, Option.none_or, Option.bind_some, hentry]

end Experiment

/-! ## What an experiment makes of its entries -/

namespace Experiment

/-- Some entry of the experiment has a version below the least one it accepts. -/
def HasOldEntry (experiment : Experiment) (recorded? : String → Option String) : Prop :=
  ∃ version < experiment.minBucketVersion.getD 0,
    (recorded? (StickyDocument.experimentKey experiment.trackingKey version)).isSome

/-- Whether an entry is one of the experiment's, of a version that is too old. -/
def isOldEntry (experiment : Experiment) (entry : String × String) : Bool :=
  match StickyDocument.versionOf? experiment.trackingKey entry.1 with
  | some version => version < experiment.minBucketVersion.getD 0
  | none => false

/-- What a variation that was read off an entry is to the experiment. -/
def memoryOf : Option Nat → Memory
  | some variation => .found variation
  | none => .nothing

theorem recall_eq (experiment : Experiment) (assignments : Dictionary String) :
    experiment.recall assignments =
      if assignments.any experiment.isOldEntry then .blocked
      else memoryOf ((Dictionary.get? assignments experiment.entryKey).bind
        experiment.variationIndex?) := rfl

theorem any_isOldEntry_iff (experiment : Experiment) (assignments : Dictionary String) :
    assignments.any experiment.isOldEntry = true ↔
      experiment.HasOldEntry (Dictionary.get? assignments) := by
  simp only [List.any_eq_true, HasOldEntry, Dictionary.isSome_get?_iff, isOldEntry]
  constructor
  · rintro ⟨entry, hentry, hold⟩
    split at hold
    · rename_i version hversion
      exact ⟨version, of_decide_eq_true hold, entry, hentry,
        StickyDocument.versionOf?_eq_some_iff.mp hversion⟩
    · cases hold
  · rintro ⟨version, hlt, entry, hentry, hkey⟩
    refine ⟨entry, hentry, ?_⟩
    rw [StickyDocument.versionOf?_eq_some_iff.mpr hkey]
    exact decide_eq_true hlt

section Memory

variable {context : Context} {experiment : Experiment} {service : StickyService}

theorem stickyService?_eq (hservice : context.sticky = some service)
    (hsticky : experiment.disableStickyBucketing = false) :
    experiment.stickyService? context = some service := by
  rw [stickyService?, hsticky, hservice]
  rfl

/-- An experiment is blocked for the user of a context, or goes by the entry of
its own bucket version. -/
theorem memory_cases (hservice : experiment.stickyService? context = some service)
    (store : Persistence) :
    (experiment.HasOldEntry (experiment.recorded? service store context.attributes) ∧
        experiment.memory context store = .blocked) ∨
      (¬ experiment.HasOldEntry (experiment.recorded? service store context.attributes) ∧
        experiment.memory context store =
          memoryOf ((experiment.recorded? service store context.attributes
            experiment.entryKey).bind experiment.variationIndex?)) := by
  have hrecorded : Dictionary.get? (service.assignments store context.attributes experiment) =
      experiment.recorded? service store context.attributes :=
    funext (service.get?_assignments store context.attributes experiment)
  have hmemory : experiment.memory context store =
      experiment.recall (service.assignments store context.attributes experiment) := by
    rw [memory, hservice]
  rw [hmemory, recall_eq, ← hrecorded, ← any_isOldEntry_iff]
  split
  · rename_i hold
    exact Or.inl ⟨hold, rfl⟩
  · rename_i hnew
    exact Or.inr ⟨hnew, rfl⟩

theorem memoryOf_eq_found_iff {variation? : Option Nat} {variation : Nat} :
    memoryOf variation? = .found variation ↔ variation? = some variation := by
  cases variation? <;> simp [memoryOf]

theorem memoryOf_eq_nothing_iff {variation? : Option Nat} :
    memoryOf variation? = .nothing ↔ variation? = none := by
  cases variation? <;> simp [memoryOf]

theorem memory_eq_found_iff (hservice : experiment.stickyService? context = some service)
    {store : Persistence} {variation : Nat} :
    experiment.memory context store = .found variation ↔
      ¬ experiment.HasOldEntry (experiment.recorded? service store context.attributes) ∧
        (experiment.recorded? service store context.attributes experiment.entryKey).bind
          experiment.variationIndex? = some variation := by
  rcases memory_cases hservice store with ⟨hold, hmemory⟩ | ⟨hnew, hmemory⟩
  · simp [hold, hmemory]
  · rw [hmemory, memoryOf_eq_found_iff]
    exact (and_iff_right hnew).symm

theorem memory_eq_nothing_iff (hservice : experiment.stickyService? context = some service)
    {store : Persistence} :
    experiment.memory context store = .nothing ↔
      ¬ experiment.HasOldEntry (experiment.recorded? service store context.attributes) ∧
        (experiment.recorded? service store context.attributes experiment.entryKey).bind
          experiment.variationIndex? = none := by
  rcases memory_cases hservice store with ⟨hold, hmemory⟩ | ⟨hnew, hmemory⟩
  · simp [hold, hmemory]
  · rw [hmemory, memoryOf_eq_nothing_iff]
    exact (and_iff_right hnew).symm

end Memory

end Experiment

end FeatureFlags

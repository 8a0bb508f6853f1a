import FeatureFlags.Proofs.Sticky.Run

/-!
# A user on several devices

An experiment with a fallback attribute knows a user by two identities.  The one of
the hash attribute goes first wherever it has a text: the user is hashed by it,
fresh assignments are written to its document, and its entry wins over that of the
fallback.  So once the document of the hash attribute names a variation
(`NamesVariation`), no run of the experiment takes the entry away again
(`NamesVariation.after`), and everyone with that identity who takes part gets the
variation, on whatever device (`NamesVariation.variationId_eq`).

A variation that is only remembered for the fallback is served but not copied, so it
is lost with the fallback; and a variation whose key belongs to an earlier one is
read back as that one.
-/

namespace FeatureFlags

/-- The document of an identity remembers a variation of the experiment. -/
structure Experiment.NamesVariation (experiment : Experiment) (service : StickyService)
    (store : Persistence) (identity : HashIdentity) (variation : Nat) : Prop where
  hasText : identity.isEmpty = false
  reads : (store.assignment? (service.documentKey identity) experiment.entryKey).bind
    experiment.variationIndex? = some variation

namespace Experiment

variable {experiment : Experiment} {service : StickyService} {store : Persistence}
  {context : Context} {variation : Nat}

/-- Identities by the hash attribute differ in their texts alone. -/
theorem primaryIdentity_ext {attributes other : Attributes}
    (hvalue : (experiment.primaryIdentity attributes).value =
      (experiment.primaryIdentity other).value) :
    experiment.primaryIdentity attributes = experiment.primaryIdentity other :=
  congrArg (HashIdentity.mk (experiment.hashAttribute.getD defaultHashAttribute)) hvalue

/-- A user whose hash attribute has a text is hashed by it. -/
theorem identity_of_primary
    (hprimary : (experiment.primaryIdentity context.attributes).isEmpty = false) :
    experiment.identity context = experiment.primaryIdentity context.attributes := by
  rcases experiment.identity_cases context with hidentity | ⟨hempty, -⟩
  · exact hidentity
  · exact absurd (hempty.symm.trans hprimary) nofun

namespace NamesVariation

variable {identity : HashIdentity}

/-- The hashed identity's document is read before anything else is. -/
theorem recorded?_bind (h : experiment.NamesVariation service store identity variation)
    (hidentity : experiment.identity context = identity) :
    (experiment.recorded? service store context.attributes experiment.entryKey).bind
      experiment.variationIndex? = some variation := by
  obtain ⟨key, hkey, hreads⟩ := Option.bind_eq_some_iff.mp h.reads
  have hentry : service.entryOf? store (experiment.identity context) experiment.entryKey =
      some key := by
    rw [hidentity, StickyService.entryOf?, h.hasText]
    exact hkey
  rw [recorded?_of_identity hentry]
  exact hreads

/-- A run of the experiment reads the entry it might overwrite, and leaves it if it
names a variation. -/
theorem on (h : experiment.NamesVariation service store identity variation)
    {run : ExperimentRun} (hsame : run.experiment = experiment) :
    experiment.NamesVariation service (run.on store).store identity variation := by
  subst hsame
  refine ⟨h.hasText, ?_⟩
  rcases run.store_cases store with hstore | ⟨own, assigned, bucket, hown, hdecision, hupdate⟩
  · rw [hstore]
    exact h.reads
  by_cases haddress : own.documentKey (run.experiment.identity run.context) =
      service.documentKey identity
  · -- The service writes where the variation is named, so it has found the name there.
    have hshares := run.context.overridden_sharesAssignments run.experiment
    obtain ⟨hasks, hnothing, -, -⟩ := decide_eq_assigned hdecision
    obtain ⟨-, hunread⟩ := (hshares.memory_eq_nothing_iff hown).mp hnothing
    have htext : (run.experiment.identity run.context).isEmpty = false := by
      rw [← hshares.identity_eq rfl]
      exact hasks.hasIdentity
    have hnames : run.experiment.NamesVariation own store
        (run.experiment.identity run.context) variation := ⟨htext, haddress ▸ h.reads⟩
    exact absurd (hunread.symm.trans (hnames.recorded?_bind rfl)) nofun
  · rw [hupdate.get_of_storageKey_ne haddress]
    exact h.reads

/-- However often the experiment is run, and for whom, a document that names a
variation goes on naming it. -/
theorem after (h : experiment.NamesVariation service store identity variation)
    {runs : List ExperimentRun} (hruns : ∀ run ∈ runs, run.experiment = experiment) :
    experiment.NamesVariation service (store.after runs) identity variation := by
  induction runs generalizing store with
  | nil => exact h
  | cons run rest ih =>
      rw [Persistence.after_cons]
      have hstep : experiment.NamesVariation service (run.on store).store identity variation :=
        h.on (hruns run (List.mem_cons_self ..))
      exact ih hstep fun other hother => hruns other (List.mem_cons_of_mem _ hother)

/-- A user who takes part is served the variation that the document of the hashed
identity names. -/
theorem variationId_eq {run : ExperimentRun}
    (h : run.experiment.NamesVariation service store identity variation)
    (hidentity : run.experiment.identity run.context = identity)
    (hservice : run.context.sticky = some service)
    (hsticky : run.experiment.disableStickyBucketing = false)
    (htakesPart : (run.on store).result.inExperiment = true) :
    (run.on store).result.variationId = variation := by
  have hshares := run.context.overridden_sharesAssignments run.experiment
  have hstickyService := run.context.stickyService?_overridden hservice hsticky
  have hrecorded := h.recorded?_bind hidentity
  obtain ⟨-, -, ⟨-, hfound, -⟩ | ⟨-, bucket, hdecision⟩⟩ :=
    ExperimentRun.takesPart_cases htakesPart
  · obtain ⟨-, hread⟩ := (hshares.memory_eq_found_iff hstickyService).mp hfound
    exact Option.some.inj (hread.symm.trans hrecorded)
  · obtain ⟨-, hnothing, -, -⟩ := decide_eq_assigned hdecision
    obtain ⟨-, hunread⟩ := (hshares.memory_eq_nothing_iff hstickyService).mp hnothing
    exact absurd (hunread.symm.trans hrecorded) nofun

end NamesVariation

/-- Without a sticky service a user who takes part is assigned by the hash. -/
theorem assigned_of_disabled {run : ExperimentRun}
    (hdisabled : run.experiment.disableStickyBucketing = true)
    (htakesPart : (run.on store).result.inExperiment = true) :
    ∃ bucket,
      (run.context.overridden run.experiment).bucketOf run.context
          (run.experiment.identity run.context).value = some bucket ∧
        chooseVariation bucket
            ((run.context.overridden run.experiment).effectiveRanges run.context.arithmetic) =
          some (run.on store).result.variationId := by
  have hshares := run.context.overridden_sharesAssignments run.experiment
  have hnobody : (run.context.overridden run.experiment).stickyService? run.context = none :=
    if_pos ((run.context.overridden_disableStickyBucketing run.experiment).trans hdisabled)
  obtain ⟨-, -, ⟨-, hfound, -⟩ | ⟨-, bucket, hdecision⟩⟩ :=
    ExperimentRun.takesPart_cases htakesPart
  · rw [memory, hnobody] at hfound
    cases hfound
  · obtain ⟨-, -, hbucket, hchosen⟩ := decide_eq_assigned hdecision
    rw [hshares.identity_eq rfl] at hbucket
    exact ⟨bucket, hbucket, hchosen⟩

end Experiment

/-! ## The variation of a known user -/

section Users

variable {store : Persistence} {service : StickyService} {first later : ExperimentRun}
  {between : List ExperimentRun} {user : String} {variation : Nat}

/-- A user with a text for the hash attribute takes part: by the hash, or by an entry
in the document of the hash attribute.  Then that document names the variation. -/
theorem namesVariation_of_takesPart (hwritable : store.saveFailure = none)
    (hservice : first.context.sticky = some service)
    (hsticky : first.experiment.disableStickyBucketing = false)
    (hprimary : (first.experiment.primaryIdentity first.context.attributes).isEmpty = false)
    (htakesPart : (first.on store).result.inExperiment = true)
    (hvariation : (first.on store).result.variationId = variation)
    (hremembered : (first.on store).result.stickyBucketUsed = true →
      (service.entryOf? store (first.experiment.primaryIdentity first.context.attributes)
        first.experiment.entryKey).isSome = true)
    (hreads : (first.on store).result.stickyBucketUsed = false →
      first.experiment.variationIndex? (first.experiment.variationKey variation) =
        some variation) :
    first.experiment.NamesVariation service (first.on store).store
      (first.experiment.primaryIdentity first.context.attributes) variation := by
  have hshares := first.context.overridden_sharesAssignments first.experiment
  have hstickyService := first.context.stickyService?_overridden hservice hsticky
  obtain ⟨-, -, ⟨hused, hfound, hstore⟩ | ⟨hfresh, -⟩⟩ :=
    ExperimentRun.takesPart_cases htakesPart
  · obtain ⟨key, hkey⟩ := Option.isSome_iff_exists.mp (hremembered hused)
    obtain ⟨-, hread⟩ := (hshares.memory_eq_found_iff hstickyService).mp hfound
    rw [Experiment.recorded?, hkey, Option.some_or, hvariation] at hread
    rw [StickyService.entryOf?, hprimary] at hkey
    refine ⟨hprimary, ?_⟩
    rw [hstore, ← hread]
    exact congrArg (Option.bind · first.experiment.variationIndex?) hkey
  · obtain ⟨-, -, -, -, hupdate⟩ := freshRun_spec hwritable hservice hsticky htakesPart hfresh
      hvariation (hreads hfresh)
    rw [Experiment.identity_of_primary hprimary] at hupdate
    refine ⟨hprimary, ?_⟩
    rw [hupdate.get_self, Option.bind_some]
    exact hreads hfresh

/-- **A known user keeps the variation across devices.**  A user with a text for the
hash attribute takes part and gets a variation: by the hash, or by an assignment that
the document of the hash attribute remembers.  Then, whoever the experiment is run for
in the meantime, everyone with the same text who takes part gets the same variation,
whatever the fallback attribute says. -/
theorem variation_across_devices (hwritable : store.saveFailure = none)
    (hservice : first.context.sticky = some service)
    (hlaterService : later.context.sticky = some service)
    (hsame : later.experiment = first.experiment)
    (hruns : ∀ run ∈ between, run.experiment = first.experiment)
    (huser : user ≠ "")
    (hfirst : (first.experiment.primaryIdentity first.context.attributes).value = user)
    (hlater : (first.experiment.primaryIdentity later.context.attributes).value = user)
    (htakesPart : (first.on store).result.inExperiment = true)
    (hvariation : (first.on store).result.variationId = variation)
    (hremembered : (first.on store).result.stickyBucketUsed = true →
      (service.entryOf? store (first.experiment.primaryIdentity first.context.attributes)
        first.experiment.entryKey).isSome = true)
    (hreads : first.experiment.disableStickyBucketing = false →
      (first.on store).result.stickyBucketUsed = false →
        first.experiment.variationIndex? (first.experiment.variationKey variation) =
          some variation)
    (hsteady : first.experiment.disableStickyBucketing = true →
      later.context.overridden first.experiment = first.context.overridden first.experiment ∧
        later.context.arithmetic = first.context.arithmetic)
    (hlaterTakesPart :
      (later.on ((first.on store).store.after between)).result.inExperiment = true) :
    (later.on ((first.on store).store.after between)).result.variationId = variation := by
  have hprimary : (first.experiment.primaryIdentity first.context.attributes).isEmpty = false := by
    rw [HashIdentity.isEmpty, hfirst]
    exact decide_eq_false huser
  have hidentities : first.experiment.primaryIdentity later.context.attributes =
      first.experiment.primaryIdentity first.context.attributes :=
    Experiment.primaryIdentity_ext (hlater.trans hfirst.symm)
  have hidentity : later.experiment.identity later.context =
      first.experiment.primaryIdentity first.context.attributes := by
    rw [hsame, ← hidentities]
    exact Experiment.identity_of_primary (hidentities ▸ hprimary)
  cases hsticky : first.experiment.disableStickyBucketing with
  | false =>
      -- The document of the hash attribute names the variation from the first run on.
      have hnames := (namesVariation_of_takesPart hwritable hservice hsticky hprimary htakesPart
        hvariation hremembered (hreads hsticky)).after hruns
      rw [← hsame] at hnames hidentity hsticky
      exact hnames.variationId_eq hidentity hlaterService hsticky hlaterTakesPart
  | true =>
      -- Nothing is remembered: both runs choose by the hash of one text in the same ranges.
      obtain ⟨hoverridden, harithmetic⟩ := hsteady hsticky
      obtain ⟨bucket, hbucket, hchosen⟩ := Experiment.assigned_of_disabled hsticky htakesPart
      obtain ⟨laterBucket, hlaterBucket, hlaterChosen⟩ :=
        Experiment.assigned_of_disabled (hsame ▸ hsticky) hlaterTakesPart
      rw [Experiment.identity_of_primary hprimary] at hbucket
      rw [hidentity, hsame, hoverridden, Experiment.bucketOf, harithmetic] at hlaterBucket
      rw [hsame, hoverridden, harithmetic] at hlaterChosen
      have hbuckets : laterBucket = bucket := Option.some.inj (hlaterBucket.symm.trans hbucket)
      rw [hbuckets] at hlaterChosen
      rw [← hvariation]
      exact Option.some.inj (hlaterChosen.symm.trans hchosen)

end Users

/-- A user keeps the first variation on a device that has been given the second one
on its own account. -/
theorem variation_kept_on_shared_device :
    let experiment : Experiment :=
      { key := "t1", variations := [.string "A", .string "B"]
        fallbackAttribute := some "deviceId" }
    let known := ExperimentRun.ofUser [("id", .string "user1")] experiment
    let onDevice := ExperimentRun.ofUser [("deviceId", .string "d1")] experiment
    let both :=
      ExperimentRun.ofUser [("deviceId", .string "d1"), ("id", .string "user1")] experiment
    (onDevice.on (known.on {}).store).result.variationId = 1 ∧
      (both.on ((known.on {}).store.after [onDevice])).result.variationId = 0 := by
  intro experiment known onDevice both
  refine ⟨by decide +kernel, ?_⟩
  exact @variation_across_devices {} {} known both [onDevice] "user1" 0 rfl rfl rfl rfl
    (by simp [onDevice, known, ExperimentRun.ofUser]) (by decide) (by decide +kernel)
    (by decide +kernel) (by decide +kernel) (by decide +kernel) (by decide +kernel)
    (by decide +kernel) nofun (by decide +kernel)

/-- Variations get lost.  A user is served the variation of the device, which is not
copied to the user's own document: without the device the user is assigned afresh.
A user with the second of two variations of one key is given the first one.  And
where nothing is remembered, a host that replaces the weights moves the user. -/
theorem variation_lost_without_device :
    let experiment : Experiment :=
      { key := "t1", variations := [.string "A", .string "B"]
        fallbackAttribute := some "deviceId" }
    let onDevice := ExperimentRun.ofUser [("deviceId", .string "d1")] experiment
    let both :=
      ExperimentRun.ofUser [("deviceId", .string "d1"), ("id", .string "user1")] experiment
    let elsewhere := ExperimentRun.ofUser [("id", .string "user1")] experiment
    let store := ({} : Persistence).after [onDevice]
    let doubled := { experiment with details := [⟨some "x", none, false⟩, ⟨some "x", none, false⟩] }
    let again := ExperimentRun.ofUser [("id", .string "user123")] doubled
    let forgotten := ExperimentRun.ofUser [("id", .string "user1")]
      { experiment with disableStickyBucketing := true }
    let weights : ExperimentOverride :=
      { weights := some [.ofNat 0, .ofNat 1], coverage := none, condition := none, force := none
        active := none }
    let moved := { forgotten with context := { forgotten.context with
      overrides := [("t1", weights)] } }
    ((experiment.primaryIdentity both.context.attributes).value = "user1" ∧
        (experiment.primaryIdentity elsewhere.context.attributes).value = "user1" ∧
        (both.on store).result.inExperiment = true ∧
        (both.on store).result.variationId = 1 ∧
        (elsewhere.on (both.on store).store).result.inExperiment = true ∧
        (elsewhere.on (both.on store).store).result.variationId = 0) ∧
      ((again.on {}).result.inExperiment = true ∧
        (again.on {}).result.variationId = 1 ∧
        (again.on (again.on {}).store).result.inExperiment = true ∧
        (again.on (again.on {}).store).result.variationId = 0) ∧
      (forgotten.on {}).result.inExperiment = true ∧
      (forgotten.on {}).result.variationId = 0 ∧
      (moved.on (forgotten.on {}).store).result.inExperiment = true ∧
      (moved.on (forgotten.on {}).store).result.variationId = 1 := by
  decide +kernel

end FeatureFlags

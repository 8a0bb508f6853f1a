import FeatureFlags.Evaluation

/-!
# Trying rules

What trying one rule can come to is said twice here: `FeatureRule.Applies` lists the ways in which
a rule applies, with the result that each of them has, and `FeatureRule.IsPassedOver` the reasons
for which it does not.  The two are exactly the outcomes of `evaluateRule`.

A list of rules is tried in order, and a rule that is passed over leaves a store to the next one.
`PassedOver` follows that store along, so that a rule that applies can be asked about where it
stands: `evaluateRules_eq_some_iff` splits the list at that rule, and `evaluateRules_eq_none_iff`
says that all of the list has been passed over.
-/

namespace FeatureFlags

/-- The rule without any member: it keeps nobody out and serves nothing. -/
def FeatureRule.blank : FeatureRule :=
  { id := none, condition := none, force := none, variations := none, weights := none
    coverage := none, range := none, ranges := none, key := none, hashAttribute := none
    fallbackAttribute := none, hashVersion := none, slice := none, filters := [], seed := none
    details := [], name := none, phase := none, disableStickyBucketing := false
    bucketVersion := none, minBucketVersion := none }

variable {context : Context} {featureKey : String} {rule : FeatureRule} {store : Persistence}
  {result : FeatureResult}

/-! ## Filters and conditions -/

/-- The user passes the filters of a rule and meets its condition. -/
structure FeatureRule.IsOpenTo (rule : FeatureRule) (context : Context) : Prop where
  passesFilters : ∀ filter ∈ rule.filters,
    filter.admits context.arithmetic context.attributes = true
  meetsCondition : ∀ condition, rule.condition = some condition →
    condition.holds (.attributes context.attributes) context.savedGroups = true

theorem FeatureRule.admits_iff : rule.admits context = true ↔ rule.IsOpenTo context := by
  have hfilters : isFilteredOut context.arithmetic rule.filters context.attributes = false ↔
      ∀ filter ∈ rule.filters, filter.admits context.arithmetic context.attributes = true := by
    simp [isFilteredOut]
  unfold admits
  split
  · rename_i hout
    refine ⟨nofun, fun hopen => ?_⟩
    exact absurd (hfilters.mpr hopen.passesFilters) (by simp [hout])
  · rename_i hpasses
    have hpasses := hfilters.mp (Bool.eq_false_iff.mpr hpasses)
    cases hcondition : rule.condition with
    | none =>
        refine ⟨fun _ => ⟨hpasses, fun _ hsome => ?_⟩, fun _ => rfl⟩
        cases hcondition.symm.trans hsome
    | some condition =>
        refine ⟨fun hholds => ⟨hpasses, fun _ hsome => ?_⟩,
          fun hopen => hopen.meetsCondition condition hcondition⟩
        cases hcondition.symm.trans hsome
        exact hholds

theorem FeatureRule.isOpenTo_or_keepsOut (rule : FeatureRule) (context : Context) :
    rule.IsOpenTo context ∨
      (∃ filter ∈ rule.filters, filter.admits context.arithmetic context.attributes = false) ∨
      ∃ condition, rule.condition = some condition ∧
        condition.holds (.attributes context.attributes) context.savedGroups = false := by
  by_cases hfilters :
      ∃ filter ∈ rule.filters, filter.admits context.arithmetic context.attributes = false
  · exact Or.inr (Or.inl hfilters)
  have hpasses : ∀ filter ∈ rule.filters,
      filter.admits context.arithmetic context.attributes = true :=
    fun filter hfilter => (Bool.not_eq_false _).mp fun hout => hfilters ⟨filter, hfilter, hout⟩
  cases hcondition : rule.condition with
  | none => exact Or.inl ⟨hpasses, fun _ hsome => nomatch hcondition.symm.trans hsome⟩
  | some condition =>
      cases hholds : condition.holds (.attributes context.attributes) context.savedGroups with
      | false => exact Or.inr (Or.inr ⟨condition, rfl, hholds⟩)
      | true =>
          refine Or.inl ⟨hpasses, fun _ hsome => ?_⟩
          cases hcondition.symm.trans hsome
          exact hholds

/-! ## One rule -/

namespace FeatureRule

/-- The ways in which a rule applies. -/
inductive Applies (context : Context) (featureKey : String) (rule : FeatureRule)
    (store : Persistence) : FeatureResult → Prop
  | forces {value : Value} (hopen : rule.IsOpenTo context) (hforce : rule.force = some value)
      (hincludes :
        (rule.rollout featureKey).includes context.arithmetic context.attributes = true) :
      Applies context featureKey rule store (rule.forcedResult value)
  | assigns {experiment : Experiment} {assignment : ExperimentResult}
      (hopen : rule.IsOpenTo context) (hforce : rule.force = none)
      (hexperiment : rule.toExperiment? featureKey = some experiment)
      (hassignment :
        (runExperiment context experiment (some featureKey) store).result = assignment)
      (htakesPart : assignment.inExperiment = true) (hserved : assignment.passthrough = false) :
      Applies context featureKey rule store (rule.experimentResult experiment assignment)

/-- The reasons for which a rule does not apply. -/
inductive IsPassedOver (context : Context) (featureKey : String) (rule : FeatureRule)
    (store : Persistence) : Prop
  | byFilter {filter : Filter} (hfilter : filter ∈ rule.filters)
      (hout : filter.admits context.arithmetic context.attributes = false)
  | byCondition {condition : Condition} (hcondition : rule.condition = some condition)
      (hfails : condition.holds (.attributes context.attributes) context.savedGroups = false)
  | byRollout {value : Value} (hforce : rule.force = some value)
      (hout : (rule.rollout featureKey).includes context.arithmetic context.attributes = false)
  /-- The user is left out of the experiment of the rule, or the variation is passed through. -/
  | byExperiment {experiment : Experiment} {assignment : ExperimentResult}
      (hforce : rule.force = none) (hexperiment : rule.toExperiment? featureKey = some experiment)
      (hassignment :
        (runExperiment context experiment (some featureKey) store).result = assignment)
      (hout : assignment.inExperiment = false ∨ assignment.passthrough = true)
  /-- The rule has nothing to serve. -/
  | byAbsence (hforce : rule.force = none) (hvariations : rule.variations = none)

theorem Applies.result_eq (h : rule.Applies context featureKey store result) :
    (evaluateRule context featureKey rule store).result = some result := by
  cases h with
  | forces hopen hforce hincludes =>
      rw [evaluateRule, admits_iff.mpr hopen]
      simp only [hforce, hincludes, Bool.not_true, Bool.false_eq_true, if_false, if_true]
  | assigns hopen hforce hexperiment hassignment htakesPart hserved =>
      rw [evaluateRule, admits_iff.mpr hopen]
      simp only [hforce, hexperiment, hassignment, htakesPart, hserved, Bool.not_true,
        Bool.not_false, Bool.and_true, Bool.false_eq_true, if_false, if_true]

theorem IsPassedOver.result_eq (h : rule.IsPassedOver context featureKey store) :
    (evaluateRule context featureKey rule store).result = none := by
  unfold evaluateRule
  split
  · rfl
  rename_i hadmits
  have hopen := admits_iff.mp (by simpa using hadmits)
  cases h with
  | byFilter hfilter hout => cases hout.symm.trans (hopen.passesFilters _ hfilter)
  | byCondition hcondition hfails => cases hfails.symm.trans (hopen.meetsCondition _ hcondition)
  | byRollout hforce hout => simp only [hforce, hout, Bool.false_eq_true, if_false]
  | byExperiment hforce hexperiment hassignment hout =>
      simp only [hforce, hexperiment, hassignment]
      rcases hout with hout | hpassed
      · simp [hout]
      · simp [hpassed]
  | byAbsence hforce hvariations =>
      simp only [hforce, toExperiment?, hvariations, Option.map_none]

/-- Every rule applies or is passed over. -/
theorem applies_or_isPassedOver (context : Context) (featureKey : String) (rule : FeatureRule)
    (store : Persistence) :
    (∃ result, rule.Applies context featureKey store result) ∨
      rule.IsPassedOver context featureKey store := by
  rcases rule.isOpenTo_or_keepsOut context with
    hopen | ⟨_, hfilter, hout⟩ | ⟨_, hcondition, hfails⟩
  · -- an open rule: by a forced value or not, then by who falls into it
    cases hforce : rule.force with
    | some value =>
        cases hincludes :
            (rule.rollout featureKey).includes context.arithmetic context.attributes with
        | true => exact Or.inl ⟨_, .forces hopen hforce hincludes⟩
        | false => exact Or.inr (.byRollout hforce hincludes)
    | none =>
        cases hexperiment : rule.toExperiment? featureKey with
        | none => exact Or.inr (.byAbsence hforce (Option.map_eq_none_iff.mp hexperiment))
        | some experiment =>
            let assignment := (runExperiment context experiment (some featureKey) store).result
            cases hin : assignment.inExperiment with
            | false => exact Or.inr (.byExperiment hforce hexperiment rfl (Or.inl hin))
            | true =>
                cases hserved : assignment.passthrough with
                | true => exact Or.inr (.byExperiment hforce hexperiment rfl (Or.inr hserved))
                | false => exact Or.inl ⟨_, .assigns hopen hforce hexperiment rfl hin hserved⟩
  · exact Or.inr (.byFilter hfilter hout)
  · exact Or.inr (.byCondition hcondition hfails)

end FeatureRule

/-- **When a rule applies.** -/
theorem evaluateRule_eq_some_iff :
    (evaluateRule context featureKey rule store).result = some result ↔
      rule.Applies context featureKey store result := by
  refine ⟨fun h => ?_, FeatureRule.Applies.result_eq⟩
  rcases rule.applies_or_isPassedOver context featureKey store with ⟨_, happlies⟩ | hpassed
  · cases h.symm.trans happlies.result_eq
    exact happlies
  · cases h.symm.trans hpassed.result_eq

/-! ## Rules in order -/

/-- Rules are passed over one after another, from a store to another one. -/
inductive PassedOver (context : Context) (featureKey : String) :
    List FeatureRule → Persistence → Persistence → Prop
  | nil (store : Persistence) : PassedOver context featureKey [] store store
  | cons {rule : FeatureRule} {rest : List FeatureRule} {store final : Persistence}
      (hrule : rule.IsPassedOver context featureKey store)
      (hrest : PassedOver context featureKey rest
        (evaluateRule context featureKey rule store).store final) :
      PassedOver context featureKey (rule :: rest) store final

variable {rules : List FeatureRule}

/-- A rule that applies is the last one to be tried. -/
theorem evaluateRules_cons_of_applies (h : rule.Applies context featureKey store result)
    (rest : List FeatureRule) :
    evaluateRules context featureKey (rule :: rest) store =
      evaluateRule context featureKey rule store := by
  simp only [evaluateRules, h.result_eq]

/-- After a rule that is passed over the others are tried on the store that it leaves. -/
theorem result_evaluateRules_cons_of_isPassedOver
    (h : rule.IsPassedOver context featureKey store) (rest : List FeatureRule) :
    (evaluateRules context featureKey (rule :: rest) store).result =
      (evaluateRules context featureKey rest
        (evaluateRule context featureKey rule store).store).result := by
  simp only [evaluateRules, h.result_eq]

/-- **When no rule applies.** -/
theorem evaluateRules_eq_none_iff :
    (evaluateRules context featureKey rules store).result = none ↔
      ∃ final, PassedOver context featureKey rules store final := by
  induction rules generalizing store with
  | nil => exact ⟨fun _ => ⟨store, .nil store⟩, fun _ => rfl⟩
  | cons rule rest ih =>
      constructor
      · intro h
        rcases rule.applies_or_isPassedOver context featureKey store with ⟨_, happlies⟩ | hpassed
        · rw [evaluateRules_cons_of_applies happlies, happlies.result_eq] at h
          cases h
        · rw [result_evaluateRules_cons_of_isPassedOver hpassed, ih] at h
          obtain ⟨final, hrest⟩ := h
          exact ⟨final, .cons hpassed hrest⟩
      · rintro ⟨final, hpassed | ⟨hpassed, hrest⟩⟩
        rw [result_evaluateRules_cons_of_isPassedOver hpassed, ih]
        exact ⟨final, hrest⟩

/-- **Which rule applies.**  The first one that is not passed over, asked on the store that the
rules before it leave. -/
theorem evaluateRules_eq_some_iff :
    (evaluateRules context featureKey rules store).result = some result ↔
      ∃ earlier rule later between, rules = earlier ++ rule :: later ∧
        PassedOver context featureKey earlier store between ∧
        rule.Applies context featureKey between result := by
  constructor
  · intro h
    induction rules generalizing store with
    | nil => cases h
    | cons rule rest ih =>
        rcases rule.applies_or_isPassedOver context featureKey store with ⟨_, happlies⟩ | hpassed
        · rw [evaluateRules_cons_of_applies happlies, happlies.result_eq] at h
          cases h
          exact ⟨[], rule, rest, store, rfl, .nil store, happlies⟩
        · rw [result_evaluateRules_cons_of_isPassedOver hpassed] at h
          obtain ⟨earlier, next, later, between, rfl, hearlier, happlies⟩ := ih h
          exact ⟨rule :: earlier, next, later, between, rfl, .cons hpassed hearlier, happlies⟩
  · rintro ⟨earlier, rule, later, between, rfl, hearlier, happlies⟩
    -- The rules before it are taken off one by one, each with the store that it leaves.
    induction hearlier with
    | nil store =>
        rw [List.nil_append, evaluateRules_cons_of_applies happlies]
        exact happlies.result_eq
    | cons hpassed hrest ih =>
        rw [List.cons_append, result_evaluateRules_cons_of_isPassedOver hpassed]
        exact ih happlies

end FeatureFlags

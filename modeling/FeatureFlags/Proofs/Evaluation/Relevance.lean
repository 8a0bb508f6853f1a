import FeatureFlags.Evaluation
import FeatureFlags.Proofs.Condition.Names

/-!
# What evaluation knows about a user

A feature reads few of a user's attributes: those that its rules hash by or fall back
to, those of their filters, and those that their conditions look at, with the
conditions that the host puts in place of theirs.  Two users who agree on these
cannot be told apart by evaluating the feature (`evaluateFeature_congr`): they get the
same result for the same reasons, and leave the same store behind.

The argument follows the code from the leaves up.  For each function that reads
attributes, `names` collects what it reads and `…_congr` says that agreeing on these
is enough.
-/

namespace FeatureFlags

open Attributes (AgreeOn)

variable {first second : Attributes}

/-! ## Identities, filters and rollouts -/

theorem Attributes.hashText_congr {name : String}
    (hname : Dictionary.get? first name = Dictionary.get? second name) :
    first.hashText name = second.hashText name := by
  simp only [hashText, hname]

/-- The attributes that an identity is resolved by. -/
def HashIdentity.names (preferred fallback : Option String) : List String :=
  preferred.getD Experiment.defaultHashAttribute :: fallback.toList

theorem HashIdentity.resolve_congr {preferred fallback : Option String}
    (hagree : AgreeOn (names preferred fallback) first second) :
    resolve first preferred fallback = resolve second preferred fallback := by
  have hpreferred := Attributes.hashText_congr (hagree _ (List.mem_cons_self ..))
  cases fallback with
  | none => simp only [resolve, hpreferred]
  | some other =>
      have hother : first.hashText other = second.hashText other :=
        Attributes.hashText_congr
          (hagree other (List.mem_cons_of_mem _ (List.mem_singleton.mpr rfl)))
      simp only [resolve, hpreferred, hother]

def Filter.names (filter : Filter) : List String := HashIdentity.names filter.hashAttribute none

theorem Filter.admits_congr {filter : Filter} (hagree : AgreeOn filter.names first second)
    (arithmetic : Number.Arithmetic) :
    filter.admits arithmetic first = filter.admits arithmetic second := by
  unfold admits
  rw [HashIdentity.resolve_congr hagree]

theorem isFilteredOut_congr {filters : List Filter}
    (hagree : AgreeOn (filters.flatMap Filter.names) first second)
    (arithmetic : Number.Arithmetic) :
    isFilteredOut arithmetic filters first = isFilteredOut arithmetic filters second := by
  unfold isFilteredOut
  induction filters with
  | nil => rfl
  | cons filter rest ih =>
      rw [List.flatMap_cons] at hagree
      rw [List.any_cons, List.any_cons, ih (hagree.mono (List.subset_append_right _ _)),
        Filter.admits_congr (hagree.mono (List.subset_append_left _ _))]

theorem Rollout.includes_congr {rollout : Rollout}
    (hagree : AgreeOn (HashIdentity.names rollout.hashAttribute rollout.fallbackAttribute)
      first second) (arithmetic : Number.Arithmetic) :
    rollout.includes arithmetic first = rollout.includes arithmetic second := by
  unfold includes
  rw [HashIdentity.resolve_congr hagree]

/-! ## Experiments -/

/-- A context with another user. -/
def Context.forUser (context : Context) (attributes : Attributes) : Context :=
  { context with attributes }

section User

variable (context : Context) (attributes : Attributes) (experiment : Experiment)

@[simp] theorem Context.forUser_attributes :
    (context.forUser attributes).attributes = attributes := rfl

@[simp] theorem Context.forUser_arithmetic :
    (context.forUser attributes).arithmetic = context.arithmetic := rfl

@[simp] theorem Context.forUser_savedGroups :
    (context.forUser attributes).savedGroups = context.savedGroups := rfl

@[simp] theorem Context.overridden_forUser :
    (context.forUser attributes).overridden experiment = context.overridden experiment := rfl

@[simp] theorem Experiment.stickyService?_forUser :
    experiment.stickyService? (context.forUser attributes) =
      experiment.stickyService? context := rfl

end User

/-- The attributes that an optional condition looks at. -/
def Condition.namesOf (condition? : Option Condition) : List String :=
  (condition?.map Condition.names).getD []

/-- The attributes that running an experiment reads. -/
def Experiment.names (experiment : Experiment) : List String :=
  HashIdentity.names experiment.hashAttribute experiment.fallbackAttribute ++
    experiment.filters.flatMap Filter.names ++ Condition.namesOf experiment.condition

namespace Experiment

section Congruence

variable {experiment : Experiment} (hagree : AgreeOn experiment.names first second)

include hagree

theorem agreeOn_identity :
    AgreeOn (HashIdentity.names experiment.hashAttribute experiment.fallbackAttribute)
      first second :=
  hagree.mono fun _ h => List.mem_append_left _ (List.mem_append_left _ h)

theorem agreeOn_filters : AgreeOn (experiment.filters.flatMap Filter.names) first second :=
  hagree.mono fun _ h => List.mem_append_left _ (List.mem_append_right _ h)

theorem identity_congr (context : Context) :
    experiment.identity (context.forUser first) = experiment.identity (context.forUser second) :=
  HashIdentity.resolve_congr (agreeOn_identity hagree)

theorem outOfReach_congr (context : Context) (hashValue : String) :
    experiment.outOfReach (context.forUser first) hashValue =
      experiment.outOfReach (context.forUser second) hashValue := by
  simp only [outOfReach, Context.forUser_attributes,
    isFilteredOut_congr (agreeOn_filters hagree)]
  rfl

theorem conditionHolds_congr (context : Context) :
    experiment.conditionHolds (context.forUser first) =
      experiment.conditionHolds (context.forUser second) := by
  have hcondition : AgreeOn (Condition.namesOf experiment.condition) first second :=
    hagree.mono (List.subset_append_right _ _)
  unfold conditionHolds
  cases hopen : experiment.condition with
  | none => rfl
  | some condition =>
      rw [hopen] at hcondition
      exact condition.holds_congr context.savedGroups hcondition

theorem decideAfresh_congr (context : Context) (hashValue : String) :
    experiment.decideAfresh (context.forUser first) hashValue =
      experiment.decideAfresh (context.forUser second) hashValue := by
  unfold decideAfresh
  rw [outOfReach_congr hagree, conditionHolds_congr hagree]
  rfl

theorem assignments_congr (service : StickyService) (store : Persistence) :
    service.assignments store first experiment = service.assignments store second experiment := by
  have hidentity := agreeOn_identity hagree
  have hprimary : HashIdentity.resolve first experiment.hashAttribute none =
      HashIdentity.resolve second experiment.hashAttribute none :=
    HashIdentity.resolve_congr (hidentity.mono (List.cons_subset_cons _ (List.nil_subset _)))
  unfold StickyService.assignments
  rw [hprimary]
  cases hfallback : experiment.fallbackAttribute with
  | none => rfl
  | some name =>
      have hname : HashIdentity.resolve first (some name) none =
          HashIdentity.resolve second (some name) none := by
        refine HashIdentity.resolve_congr (hidentity.mono ?_)
        rw [hfallback]
        exact List.subset_cons_self _ _
      simp only [hname]

theorem memory_congr (context : Context) (store : Persistence) :
    experiment.memory (context.forUser first) store =
      experiment.memory (context.forUser second) store := by
  simp only [memory, stickyService?_forUser, Context.forUser_attributes,
    assignments_congr hagree]

theorem decide_congr (context : Context) (store : Persistence) :
    experiment.decide (context.forUser first) store =
      experiment.decide (context.forUser second) store := by
  unfold decide
  simp only [identity_congr hagree, memory_congr hagree, decideAfresh_congr hagree]
  rfl

theorem remember_congr (service : StickyService) (store : Persistence)
    (identity : HashIdentity) (variation : Nat) :
    service.remember store first experiment identity variation =
      service.remember store second experiment identity variation := by
  unfold StickyService.remember
  rw [assignments_congr hagree]

theorem commit_congr (decision : Decision) (context : Context) (store : Persistence) :
    decision.commit (context.forUser first) experiment store =
      decision.commit (context.forUser second) experiment store := by
  cases decision with
  | excluded reason => rfl
  | forced variation => rfl
  | remembered variation bucket => rfl
  | assigned variation bucket =>
      unfold Decision.commit
      rw [stickyService?_forUser, stickyService?_forUser]
      cases experiment.stickyService? context with
      | none => rfl
      | some service =>
          rw [identity_congr hagree]
          exact remember_congr hagree service store _ variation

end Congruence

end Experiment

/-- Running an experiment reads the attributes of the experiment as the host has it. -/
theorem runExperiment_congr {context : Context} {experiment : Experiment}
    (hagree : AgreeOn (context.overridden experiment).names first second)
    (featureId : Option String) (store : Persistence) :
    runExperiment (context.forUser first) experiment featureId store =
      runExperiment (context.forUser second) experiment featureId store := by
  simp only [runExperiment, Context.overridden_forUser, Experiment.decide_congr hagree,
    Experiment.identity_congr hagree, Experiment.commit_congr hagree]

/-! ## Rules and features -/

/-- The condition that a host puts in place of that of the experiment of a rule. -/
def FeatureRule.overridingCondition? (context : Context) (featureKey : String)
    (rule : FeatureRule) : Option Condition :=
  (rule.toExperiment? featureKey).bind fun experiment =>
    (Dictionary.get? context.overrides experiment.trackingKey).bind (·.condition)

/-- The attributes that trying a rule reads. -/
def FeatureRule.names (context : Context) (featureKey : String) (rule : FeatureRule) :
    List String :=
  HashIdentity.names rule.hashAttribute rule.fallbackAttribute ++
    rule.filters.flatMap Filter.names ++
    Condition.namesOf rule.condition ++
    Condition.namesOf (rule.overridingCondition? context featureKey)

/-- The attributes that evaluating a feature reads. -/
def Feature.names (context : Context) (featureKey : String) (feature : Feature) : List String :=
  feature.rules.flatMap (FeatureRule.names context featureKey)

section Rules

variable {context : Context} {featureKey : String} {rule : FeatureRule}

theorem FeatureRule.admits_congr
    (hagree : AgreeOn (rule.names context featureKey) first second) :
    rule.admits (context.forUser first) = rule.admits (context.forUser second) := by
  have hfilters : AgreeOn (rule.filters.flatMap Filter.names) first second :=
    hagree.mono fun _ h =>
      List.mem_append_left _ (List.mem_append_left _ (List.mem_append_right _ h))
  have hcondition : AgreeOn (Condition.namesOf rule.condition) first second :=
    hagree.mono fun _ h => List.mem_append_left _ (List.mem_append_right _ h)
  unfold admits
  rw [Context.forUser_attributes, Context.forUser_attributes, isFilteredOut_congr hfilters]
  cases hopen : rule.condition with
  | none => rfl
  | some condition =>
      rw [hopen] at hcondition
      simp only [Context.forUser_arithmetic, Context.forUser_savedGroups,
        Condition.holds_congr context.savedGroups hcondition]
      rfl

theorem FeatureRule.includes_congr
    (hagree : AgreeOn (rule.names context featureKey) first second)
    (arithmetic : Number.Arithmetic) :
    (rule.rollout featureKey).includes arithmetic first =
      (rule.rollout featureKey).includes arithmetic second := by
  refine Rollout.includes_congr (hagree.mono fun _ h => ?_) arithmetic
  exact List.mem_append_left _ (List.mem_append_left _ (List.mem_append_left _ h))

/-- The experiment of a rule has no condition but that of the host. -/
theorem FeatureRule.names_overridden {experiment : Experiment}
    (hexperiment : rule.toExperiment? featureKey = some experiment) :
    (context.overridden experiment).names =
      HashIdentity.names rule.hashAttribute rule.fallbackAttribute ++
        rule.filters.flatMap Filter.names ++
        Condition.namesOf (rule.overridingCondition? context featureKey) := by
  rw [overridingCondition?, hexperiment, Option.bind_some]
  obtain ⟨variations, -, rfl⟩ := Option.map_eq_some_iff.mp hexperiment
  unfold Context.overridden
  generalize Dictionary.get? context.overrides _ = override?
  cases override? with
  | none => rfl
  | some override =>
      rw [Option.bind_some, ← Option.or_none (o := override.condition)]
      rfl

theorem evaluateRule_congr (hagree : AgreeOn (rule.names context featureKey) first second)
    (store : Persistence) :
    evaluateRule (context.forUser first) featureKey rule store =
      evaluateRule (context.forUser second) featureKey rule store := by
  unfold evaluateRule
  rw [FeatureRule.admits_congr hagree]
  cases rule.force with
  | some value =>
      simp only [Context.forUser_attributes, FeatureRule.includes_congr hagree]
      rfl
  | none =>
      cases hexperiment : rule.toExperiment? featureKey with
      | none => rfl
      | some experiment =>
          -- The host may have put a condition of its own in the place of none.
          have hnames : AgreeOn (context.overridden experiment).names first second := by
            rw [FeatureRule.names_overridden hexperiment]
            refine hagree.mono fun name hname => ?_
            rcases List.mem_append.mp hname with hrule | hoverriding
            · exact List.mem_append_left _ (List.mem_append_left _ hrule)
            · exact List.mem_append_right _ hoverriding
          simp only [runExperiment_congr hnames]

theorem evaluateRules_congr {rules : List FeatureRule}
    (hagree : AgreeOn (rules.flatMap (FeatureRule.names context featureKey)) first second)
    (store : Persistence) :
    evaluateRules (context.forUser first) featureKey rules store =
      evaluateRules (context.forUser second) featureKey rules store := by
  induction rules generalizing store with
  | nil => rfl
  | cons rule rest ih =>
      rw [List.flatMap_cons] at hagree
      have hrule := evaluateRule_congr (hagree.mono (List.subset_append_left _ _)) store
      have hrest := ih (hagree.mono (List.subset_append_right _ _))
      simp only [evaluateRules, hrule, hrest]

end Rules

/-- **Evaluation does not interfere with the rest of a user.**  Two contexts differ in
their users alone, and the users agree on every attribute that the feature reads.  Then
evaluating the feature gives the same result, meets the same exclusions and leaves the
same store. -/
theorem evaluateFeature_congr {left right : Context}
    (hcontexts : right = left.forUser right.attributes) (key : String)
    (hagree : ∀ feature, Dictionary.get? left.features key = some feature →
      AgreeOn (feature.names left key) left.attributes right.attributes) (store : Persistence) :
    evaluateFeature left key store = evaluateFeature right key store := by
  unfold evaluateFeature
  have hfeatures : right.features = left.features := by rw [hcontexts]; rfl
  rw [hfeatures]
  cases hfeature : Dictionary.get? left.features key with
  | none => rfl
  | some feature =>
      have hrules := evaluateRules_congr (hagree feature hfeature) store
      rw [← hcontexts] at hrules
      simp only [Feature.evaluate]
      rw [show left = left.forUser left.attributes from rfl, hrules]

/-- Two users who differ in their country are served alike by a feature that looks at
the countries of their orders, and only at those. -/
theorem evaluateFeature_congr_of_orders :
    let ordersFrom (country : String) : Value := .array [.object [("country", .string country)]]
    let condition : Condition := .ofClause "orders" <|
      .object [("$elemMatch", .object [("country", .string "DE")])]
    let rule : FeatureRule :=
      { id := some "r1", condition := some condition, force := none
        variations := some [.string "red", .string "blue"], weights := none, coverage := none
        range := none, ranges := none, key := some "colour", hashAttribute := none
        fallbackAttribute := some "deviceId", hashVersion := none, slice := none, filters := []
        seed := none, details := [], name := none, phase := none
        disableStickyBucketing := false, bucketVersion := none, minBucketVersion := none }
    let left : Context :=
      { apiKey := "", hostUrl := "", sticky := some {}
        features := [("banner", { defaultValue := .null, rules := [rule] })]
        attributes := [("id", .string "user1"), ("orders", ordersFrom "DE")] }
    let right := left.forUser
      [("country", .string "FR"), ("id", .string "user1"), ("orders", ordersFrom "DE")]
    evaluateFeature left "banner" {} = evaluateFeature right "banner" {} := by
  intro ordersFrom condition rule left right
  refine evaluateFeature_congr rfl "banner" ?_ {}
  intro feature hfeature
  cases hfeature
  have hcondition : condition.names = ["orders"] := Condition.names_ofClause (by decide) _
  have hnames : Feature.names left "banner" { defaultValue := .null, rules := [rule] } =
      ["id", "deviceId"] ++ [] ++ condition.names ++ [] ++ [] := rfl
  rw [hnames, hcondition]
  -- nothing but the orders and the two identities is looked at, and there the users agree
  intro name hname
  simp only [List.append_nil, List.cons_append, List.nil_append, List.mem_cons,
    List.not_mem_nil, or_false] at hname
  rcases hname with rfl | rfl | rfl <;> rfl

end FeatureFlags

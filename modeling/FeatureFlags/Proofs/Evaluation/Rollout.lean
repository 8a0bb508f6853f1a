import FeatureFlags.Proofs.Evaluation.Composition
import FeatureFlags.Proofs.Number.Exact
import FeatureFlags.Proofs.Number.Rounding

/-!
# Rollouts at zero

A rule is switched off by a coverage of zero or less, which should leave nobody whom it serves.
But a coverage is compared with the hash of the user so that a user at its very end is let in,
while a range of the hash interval leaves its end out.  Of the hashes a thousandth or a
ten-thousandth is zero, and users with such a hash are served by a rule whose coverage is zero.

* `bucketHash_eq_zero_or_pos`: a hash is zero or greater than zero, whatever arithmetic it is
  computed in; rounding does not make it vanish.
* `Rollout.includes_iff_of_off`: so the rollout of a rule that is switched off reaches exactly the
  users with the hash zero, and them only if the coverage is zero as well.
* `evaluateFeature_of_off`: a feature whose rules are all switched off has its default value exactly
  for users whom no rule reaches at zero; anybody else gets what the first rule that does so
  forces (`served_at_zero` is such a user).
-/

namespace FeatureFlags

open Number (Arithmetic)

/-! ## Hashes and zero -/

namespace Number

theorem isZero_iff_position? {x : Number} : x.isZero = true ↔ x.position? = some (point 0) := by
  cases x with
  | finite value => simp [isZero, toRat?, position?, point]
  | negativeZero => simp [isZero, toRat?, position?]
  | infinity negative =>
      refine iff_of_false Bool.false_ne_true fun hposition => ?_
      cases negative with
      | false => exact (point_lt_top 0).ne' (Option.some.inj hposition)
      | true => exact (bot_lt_point 0).ne (Option.some.inj hposition)
  | nan => exact iff_of_false Bool.false_ne_true (Option.some_ne_none _).symm

/-- What is not too small for a double is rounded to a number greater than zero. -/
theorem Arithmetic.round_pos (arithmetic : Arithmetic) {q : ℚ} (hq : (2 : ℚ) ^ (-1074 : ℤ) ≤ q) :
    Number.lt (.ofNat 0) (arithmetic.round q) = true := by
  have hzero : (Number.ofNat 0).toRat? = some 0 := rfl
  have hpos : 0 < q := (zpow_pos two_pos _).trans_le hq
  cases arithmetic with
  | exact => exact (lt_iff_of_toRat? hzero rfl).mpr hpos
  | binary64 =>
      rcases nearestDouble_cases hpos with hinfinite | ⟨hfinite, -⟩
      · rw [round, hinfinite]
        rfl
      · have hmultiple : (2 : ℚ) ^ (-1074 : ℤ) ≤ nearestMultiple q :=
          two_zpow_le_nearestMultiple le_rfl hq
        rw [round, hfinite]
        exact (lt_iff_of_toRat? hzero rfl).mpr ((zpow_pos two_pos _).trans_le hmultiple)

end Number

theorem fractionOf_eq_zero_or_pos (arithmetic : Arithmetic) (n : UInt32) {parts : ℕ}
    (hsome : 0 < parts) (hmost : parts ≤ 10000) :
    fractionOf arithmetic n parts = .ofNat 0 ∨
      Number.lt (.ofNat 0) (fractionOf arithmetic n parts) = true := by
  have hparts : (0 : ℚ) < parts := by exact_mod_cast hsome
  have hsign (m : ℕ) : (Number.finite m).isNegative = false :=
    decide_eq_false (not_lt.mpr (Nat.cast_nonneg m))
  have hfraction : fractionOf arithmetic n parts =
      arithmetic.roundSigned false (((n.toNat % parts : ℕ) : ℚ) / parts) := by
    simp only [fractionOf, Arithmetic.div, Number.toRat?, Number.ofNat, hsign, if_neg hparts.ne',
      bne_self_eq_false]
  rw [hfraction, Arithmetic.roundSigned]
  split
  · exact Or.inl rfl
  · rename_i hquotient
    refine Or.inr (arithmetic.round_pos ?_)
    -- a remainder that is not zero is at least one, far above the smallest double
    have hrest : (1 : ℚ) ≤ ((n.toNat % parts : ℕ) : ℚ) := by
      have hne : n.toNat % parts ≠ 0 := fun hzero =>
        hquotient (by rw [hzero, Nat.cast_zero, zero_div])
      exact_mod_cast Nat.one_le_iff_ne_zero.mpr hne
    have hmost' : (parts : ℚ) ≤ 10000 := by exact_mod_cast hmost
    calc (2 : ℚ) ^ (-1074 : ℤ)
        ≤ (2 : ℚ) ^ (-14 : ℤ) := zpow_le_zpow_right₀ one_le_two (by norm_num)
      _ ≤ 1 / 10000 := by norm_num
      _ ≤ ((n.toNat % parts : ℕ) : ℚ) / parts :=
          div_le_div₀ (by positivity) hrest hparts hmost'

/-- **A hash is zero or greater than zero.** -/
theorem bucketHash_eq_zero_or_pos {arithmetic : Arithmetic} {seed value : String} {version : ℕ}
    {n : Number} (hhash : bucketHash arithmetic seed value version = some n) :
    n = .ofNat 0 ∨ Number.lt (.ofNat 0) n = true := by
  unfold bucketHash at hhash
  split at hhash
  · cases hhash
    exact fractionOf_eq_zero_or_pos arithmetic _ (by norm_num) (by norm_num)
  · cases hhash
    exact fractionOf_eq_zero_or_pos arithmetic _ (by norm_num) (by norm_num)
  · cases hhash

/-! ## Rollouts -/

namespace Rollout

variable {rollout : Rollout} {arithmetic : Arithmetic} {attributes : Attributes}

/-- The hash of a user in a rollout; none if the user cannot be hashed. -/
def hash? (arithmetic : Arithmetic) (rollout : Rollout) (attributes : Attributes) :
    Option Number :=
  let identity := HashIdentity.resolve attributes rollout.hashAttribute rollout.fallbackAttribute
  if identity.isEmpty then none
  else bucketHash arithmetic rollout.seed identity.value (rollout.hashVersion.getD 1)

theorem hash?_eq_zero_or_pos {n : Number} (hhash : rollout.hash? arithmetic attributes = some n) :
    n = .ofNat 0 ∨ Number.lt (.ofNat 0) n = true := by
  unfold hash? at hhash
  dsimp only at hhash
  split at hhash
  · cases hhash
  · exact bucketHash_eq_zero_or_pos hhash

/-- A rollout with a coverage reaches the users whose hash does not exceed it. -/
theorem includes_iff_of_coverage {coverage : Number} (hrange : rollout.range = none)
    (hcoverage : rollout.coverage = some coverage) :
    rollout.includes arithmetic attributes = true ↔
      ∃ n, rollout.hash? arithmetic attributes = some n ∧ Number.le n coverage = true := by
  simp only [includes, hash?, reaches, hrange, hcoverage, Option.isNone_some, Option.isNone_none,
    Bool.and_false, Bool.false_eq_true, if_false]
  split
  · simp
  · cases bucketHash arithmetic rollout.seed
      (HashIdentity.resolve attributes rollout.hashAttribute rollout.fallbackAttribute).value
      (rollout.hashVersion.getD 1) <;> simp

/-- **Whom a coverage of zero or less lets in.** -/
theorem includes_iff_of_off {coverage : Number} (hrange : rollout.range = none)
    (hcoverage : rollout.coverage = some coverage)
    (hoff : Number.le coverage (.ofNat 0) = true) :
    rollout.includes arithmetic attributes = true ↔
      coverage.isZero = true ∧ rollout.hash? arithmetic attributes = some (.ofNat 0) := by
  have hzero : (Number.ofNat 0).position? = some (Number.point 0) := rfl
  rw [includes_iff_of_coverage hrange hcoverage, Number.isZero_iff_position?]
  obtain ⟨c, _, hc, hz, hle⟩ := Number.le_iff.mp hoff
  cases hzero.symm.trans hz
  constructor
  · rintro ⟨n, hhash, hreached⟩
    obtain ⟨p, _, hp, hc', hle'⟩ := Number.le_iff.mp hreached
    cases hc.symm.trans hc'
    rcases hash?_eq_zero_or_pos hhash with rfl | hpos
    · cases hzero.symm.trans hp
      exact ⟨hc.trans (congrArg some (le_antisymm hle hle')), hhash⟩
    · -- a hash above zero is above the coverage
      have hlt := (Number.lt_iff_of_position? hzero hp).mp hpos
      exact absurd (hle'.trans hle) (not_le.mpr hlt)
  · rintro ⟨hposition, hhash⟩
    exact ⟨_, hhash, (Number.le_iff_of_position? hzero hposition).mpr le_rfl⟩

end Rollout

/-! ## Rules -/

namespace FeatureRule

/-- The rule forces a value, for a coverage that leaves nothing of the hash interval. -/
structure IsOff (rule : FeatureRule) : Prop where
  forces : ∃ value, rule.force = some value
  noRange : rule.range = none
  coverage_le : ∃ coverage, rule.coverage = some coverage ∧ Number.le coverage (.ofNat 0) = true

/-- The rule is open to the user, who sits with the hash zero at the end of a coverage of zero. -/
structure ReachesAtZero (rule : FeatureRule) (context : Context) (featureKey : String) :
    Prop where
  isOpen : rule.IsOpenTo context
  coverage_isZero : ∃ coverage, rule.coverage = some coverage ∧ coverage.isZero = true
  hash_eq : (rule.rollout featureKey).hash? context.arithmetic context.attributes =
    some (.ofNat 0)

variable {context : Context} {featureKey : String} {rule : FeatureRule}

theorem IsOff.reachesAtZero_iff (hoff : rule.IsOff) :
    rule.ReachesAtZero context featureKey ↔
      rule.IsOpenTo context ∧
        (rule.rollout featureKey).includes context.arithmetic context.attributes = true := by
  obtain ⟨coverage, hcoverage, hle⟩ := hoff.coverage_le
  rw [@Rollout.includes_iff_of_off (rule.rollout featureKey) _ _ coverage hoff.noRange hcoverage
    hle]
  constructor
  · rintro ⟨hopen, ⟨other, hother, hzero⟩, hhash⟩
    cases hcoverage.symm.trans hother
    exact ⟨hopen, hzero, hhash⟩
  · rintro ⟨hopen, hzero, hhash⟩
    exact ⟨hopen, ⟨coverage, hcoverage, hzero⟩, hhash⟩

/-- A rule that is switched off and reaches the user all the same. -/
theorem IsOff.evaluateRule_eq (hoff : rule.IsOff)
    (hreaches : rule.ReachesAtZero context featureKey) (store : Persistence) :
    ∃ value, rule.force = some value ∧
      evaluateRule context featureKey rule store = ⟨some (rule.forcedResult value), [], store⟩ := by
  obtain ⟨hopen, hincludes⟩ := hoff.reachesAtZero_iff.mp hreaches
  obtain ⟨value, hforce⟩ := hoff.forces
  refine ⟨value, hforce, ?_⟩
  simp [evaluateRule, admits_iff.mpr hopen, hforce, hincludes]

/-- A rule that is switched off and does not reach the user. -/
theorem IsOff.evaluateRule_eq_none (hoff : rule.IsOff)
    (hmisses : ¬ rule.ReachesAtZero context featureKey) (store : Persistence) :
    evaluateRule context featureKey rule store = ⟨none, [], store⟩ := by
  obtain ⟨value, hforce⟩ := hoff.forces
  rw [hoff.reachesAtZero_iff, ← admits_iff, not_and, Bool.not_eq_true] at hmisses
  unfold evaluateRule
  cases hadmits : rule.admits context with
  | false => rfl
  | true => simp [hforce, hmisses hadmits]

end FeatureRule

section Rules

variable {context : Context} {featureKey : String} {rules : List FeatureRule}

/-- Rules that are switched off exclude nobody and write nothing, and they have a result only if one
of them reaches the user. -/
theorem evaluateRules_of_off (hoff : ∀ rule ∈ rules, rule.IsOff) (store : Persistence) :
    ∃ result?, evaluateRules context featureKey rules store = ⟨result?, [], store⟩ ∧
      (result? = none ↔ ∀ rule ∈ rules, ¬ rule.ReachesAtZero context featureKey) := by
  induction rules with
  | nil => exact ⟨none, rfl, iff_of_true rfl (List.forall_mem_nil _)⟩
  | cons rule rest ih =>
      obtain ⟨hrule, hrest⟩ := List.forall_mem_cons.mp hoff
      obtain ⟨later?, hlater, hnone⟩ := ih hrest
      rw [evaluateRules_cons, List.forall_mem_cons]
      by_cases hreaches : rule.ReachesAtZero context featureKey
      · obtain ⟨value, -, heq⟩ := hrule.evaluateRule_eq hreaches store
        rw [heq, Evaluation.orElse_mk_some]
        exact ⟨_, rfl, iff_of_false nofun fun hmisses => hmisses.1 hreaches⟩
      · rw [hrule.evaluateRule_eq_none hreaches, Evaluation.orElse_mk_none, hlater]
        exact ⟨later?, rfl, hnone.trans (and_iff_right hreaches).symm⟩

/-- The first rule that reaches the user serves what it forces. -/
theorem evaluateRules_of_reaches {rule : FeatureRule} {earlier later : List FeatureRule}
    (hoff : ∀ other ∈ earlier, other.IsOff) (hrule : rule.IsOff)
    (hmisses : ∀ other ∈ earlier, ¬ other.ReachesAtZero context featureKey)
    (hreaches : rule.ReachesAtZero context featureKey) (store : Persistence) :
    ∃ value, rule.force = some value ∧
      evaluateRules context featureKey (earlier ++ rule :: later) store =
        ⟨some (rule.forcedResult value), [], store⟩ := by
  obtain ⟨value, hforce, heq⟩ := hrule.evaluateRule_eq hreaches store
  obtain ⟨_, hearlier, hnone⟩ := evaluateRules_of_off hoff store
  cases hnone.mpr hmisses
  refine ⟨value, hforce, ?_⟩
  rw [evaluateRules_append, hearlier, Evaluation.orElse_mk_none, evaluateRules_cons, heq,
    Evaluation.orElse_mk_some]
  rfl

end Rules

/-! ## Features -/

/-- **Whom a rollout at zero serves.**  A feature whose rules are all switched off has its default
value exactly for the users whom none of them reaches at zero.  Anybody else is served by the first
rule that does so.  Nothing is excluded on the way, and the store stays as it is. -/
theorem evaluateFeature_of_off {context : Context} {key : String} {feature : Feature}
    (hfeature : Dictionary.get? context.features key = some feature)
    (hoff : ∀ rule ∈ feature.rules, rule.IsOff) (store : Persistence) :
    let evaluation := evaluateFeature context key store
    (evaluation.result = .ofValue feature.defaultValue .defaultValue ↔
        ∀ rule ∈ feature.rules, ¬ rule.ReachesAtZero context key) ∧
      (∀ earlier rule later, feature.rules = earlier ++ rule :: later →
        (∀ other ∈ earlier, ¬ other.ReachesAtZero context key) → rule.ReachesAtZero context key →
        ∃ value, rule.force = some value ∧ evaluation.result = rule.forcedResult value) ∧
      evaluation.exclusions = [] ∧ evaluation.store = store := by
  intro evaluation
  have hevaluation : evaluation = feature.evaluate context key store := by
    simp only [evaluation, evaluateFeature, hfeature]
  obtain ⟨result?, hrules, hnone⟩ := @evaluateRules_of_off context key _ hoff store
  rw [hevaluation, Feature.evaluate, ← hnone, hrules]
  refine ⟨?_, ?_, rfl, rfl⟩
  · cases result? with
    | none => exact iff_of_true rfl rfl
    | some result =>
        -- What a rule serves does not have the source of the default value.
        have hsource := source_evaluateRules_ne_defaultValue (congrArg Evaluation.result hrules)
        exact iff_of_false (fun hdefault => hsource (congrArg FeatureResult.source hdefault))
          (Option.some_ne_none result)
  · intro earlier rule later hsplit hmisses hreaches
    rw [hsplit] at hoff hrules
    obtain ⟨value, hforce, heq⟩ := evaluateRules_of_reaches
      (fun other hother => hoff other (List.mem_append_left _ hother))
      (hoff rule (List.mem_append_right _ List.mem_cons_self)) hmisses hreaches store
    rw [hrules] at heq
    cases heq
    exact ⟨value, hforce, rfl⟩

/-- A rule for everybody that serves a value with a coverage. -/
def FeatureRule.covering (coverage : Number) (value : Value) : FeatureRule :=
  { FeatureRule.blank with force := some value, coverage := some coverage }

theorem FeatureRule.isOff_covering {coverage : Number}
    (hoff : Number.le coverage (.ofNat 0) = true) (value : Value) :
    (FeatureRule.covering coverage value).IsOff :=
  ⟨⟨value, rfl⟩, rfl, coverage, rfl, hoff⟩

/-- A user of a feature `f` that is off unless one of the rules applies. -/
def Context.ofRolloutUser (id : String) (rules : List FeatureRule) : Context :=
  { apiKey := "", hostUrl := "", attributes := [("id", .string id)]
    features := [("f", ⟨.boolean false, rules⟩)] }

/-- One user is hashed to zero and is served by the rule whose coverage is zero, but not by the one
whose coverage is below zero; another user has the default value. -/
theorem served_by_second_rule :
    let below := FeatureRule.covering (.finite (-1 / 2)) (.string "below")
    let zero := FeatureRule.covering (.ofNat 0) (.boolean true)
    (∀ rule ∈ [below, zero], rule.IsOff) ∧
      (evaluateFeature (.ofRolloutUser "user57" [below, zero]) "f" {}).result =
        zero.forcedResult (.boolean true) ∧
      (evaluateFeature (.ofRolloutUser "user58" [below, zero]) "f" {}).result =
        .ofValue (.boolean false) .defaultValue := by
  intro below zero
  have hoff : ∀ rule ∈ [below, zero], rule.IsOff := by
    intro rule hrule
    simp only [List.mem_cons, List.not_mem_nil, or_false] at hrule
    rcases hrule with rfl | rfl <;> exact FeatureRule.isOff_covering (by decide +kernel) _
  have hbelow (context : Context) : ¬ below.ReachesAtZero context "f" := by
    rintro ⟨-, ⟨_, hcoverage, hzero⟩, -⟩
    cases hcoverage
    exact absurd hzero (by decide +kernel)
  refine ⟨hoff, ?_, ?_⟩
  · -- the hash of this user is zero, so the rule with coverage zero takes the user in
    obtain ⟨-, hfirst, -⟩ :=
      @evaluateFeature_of_off (.ofRolloutUser "user57" [below, zero]) "f" _ rfl hoff {}
    have hreaches : zero.ReachesAtZero (.ofRolloutUser "user57" [below, zero]) "f" :=
      ⟨⟨nofun, nofun⟩, ⟨_, rfl, by decide +kernel⟩, by decide +kernel⟩
    obtain ⟨value, hforce, hresult⟩ := hfirst [below] zero [] rfl
      (List.forall_mem_singleton.mpr (hbelow _)) hreaches
    cases hforce
    exact hresult
  · -- the hash of this user is above zero, so neither rule does
    obtain ⟨hdefault, -⟩ :=
      @evaluateFeature_of_off (.ofRolloutUser "user58" [below, zero]) "f" _ rfl hoff {}
    have hzero : ¬ zero.ReachesAtZero (.ofRolloutUser "user58" [below, zero]) "f" := by
      rintro ⟨-, -, hhash⟩
      exact absurd hhash (by decide +kernel)
    refine hdefault.mpr fun rule hrule => ?_
    rcases List.mem_cons.mp hrule with rfl | hrule
    · exact hbelow _
    · rw [List.mem_singleton.mp hrule]
      exact hzero

/-- A coverage of zero, and still somebody is served. -/
theorem served_at_zero :
    let rules : List FeatureRule := [.covering (.ofNat 0) (.boolean true)]
    ¬ ((∀ rule ∈ rules, rule.IsOff) →
      (evaluateFeature (.ofRolloutUser "user57" rules) "f" {}).result =
        .ofValue (.boolean false) .defaultValue) := by
  intro rules hdefault
  have hoff : ∀ rule ∈ rules, rule.IsOff :=
    List.forall_mem_singleton.mpr (FeatureRule.isOff_covering (by decide +kernel) _)
  have hforced : (evaluateFeature (.ofRolloutUser "user57" rules) "f" {}).result.source =
      .force := by decide +kernel
  rw [hdefault hoff] at hforced
  cases hforced

end FeatureFlags

import FeatureFlags.Exposure
import FeatureFlags.Proofs.Evaluation.Rules

/-!
# Exposures are reported once

A tracker remembers what it has reported since it was last full.  As long as no more
different exposures come than it may remember, it is never full when a new one comes, so
that it remembers the whole past: every exposure that has occurred, once, the newest one
first (`ExposureTracker.Remembers`).  An exposure is then reported where it occurs for the
first time, and nowhere else.

Beyond its limit a tracker forgets, and what it has forgotten may be reported again.  It
still never remembers more than its limit, or than one exposure if the limit is zero
(`ExposureTracker.WithinLimit`), and all it ever reports are users who take part.
-/

namespace FeatureFlags

/-! ## Calls -/

/-- A tracked evaluation that the host asks for.  Any context may be published at the time, and the
sticky store may hold anything. -/
inductive TrackedCall
  | evaluating (context : Context) (store : Persistence) (key : String)
  | running (context : Context) (store : Persistence) (experiment : Experiment)

namespace TrackedCall

/-- The experiment that a call comes down to, if it does, with the result of that experiment. -/
def outcome? : TrackedCall → Option (Experiment × ExperimentResult)
  | evaluating context store key =>
    let result := (evaluateFeature context key store).result
    match result.experiment, result.experimentResult with
    | some experiment, some experimentResult => some (experiment, experimentResult)
    | _, _ => none
  | running context store experiment =>
    some (experiment, (runExperiment context experiment none store).result)

/-- The exposure of a call, if its user takes part in an experiment. -/
def exposure? (call : TrackedCall) : Option Exposure :=
  call.outcome?.bind fun (experiment, result) => Exposure.of? experiment result

/-- An exposure is that of a user who takes part, and says in what. -/
theorem outcome_of_exposure {call : TrackedCall} {exposure : Exposure}
    (hexposure : call.exposure? = some exposure) :
    ∃ experiment result, call.outcome? = some (experiment, result) ∧ result.inExperiment = true ∧
      exposure = ⟨result.hashAttribute, result.hashValue, experiment.trackingKey,
        result.variationId⟩ := by
  obtain ⟨⟨experiment, result⟩, houtcome, hof⟩ := Option.bind_eq_some_iff.mp hexposure
  obtain ⟨htakesPart, hsame⟩ := Option.ite_none_right_eq_some.mp hof
  exact ⟨experiment, result, houtcome, htakesPart, (Option.some.inj hsame).symm⟩

end TrackedCall

namespace ExposureTracker

/-- What is reported about a call, and the tracker after the call. -/
def serve (tracker : ExposureTracker) : TrackedCall → Option Exposure × ExposureTracker
  | .evaluating context store key =>
    let evaluation := tracker.evaluateFeature context key store
    (evaluation.viewed, evaluation.tracker)
  | .running context store experiment =>
    let evaluation := tracker.runExperiment context experiment store
    (evaluation.viewed, evaluation.tracker)

/-- The tracker after some calls. -/
def after (tracker : ExposureTracker) : List TrackedCall → ExposureTracker
  | [] => tracker
  | call :: rest => (tracker.serve call).2.after rest

/-- What is reported in the course of some calls. -/
def reports (tracker : ExposureTracker) : List TrackedCall → List Exposure
  | [] => []
  | call :: rest => (tracker.serve call).1.toList ++ (tracker.serve call).2.reports rest

/-! ## One call -/

section Call

variable {tracker : ExposureTracker} {call : TrackedCall}

/-- Either way of evaluating tracks the exposure of the call and nothing else. -/
theorem serve_eq :
    tracker.serve call =
      match call.exposure? with
      | none => (none, tracker)
      | some exposure =>
        (if (tracker.track exposure).1 then some exposure else none,
          (tracker.track exposure).2) := by
  have hobserve (experiment : Experiment) (result : ExperimentResult) :
      tracker.observe experiment result =
        match Exposure.of? experiment result with
        | none => (none, tracker)
        | some exposure =>
          (if (tracker.track exposure).1 then some exposure else none,
            (tracker.track exposure).2) := rfl
  cases call with
  | running context store experiment => exact hobserve _ _
  | evaluating context store key =>
      dsimp only [serve, ExposureTracker.evaluateFeature, observeFeature, TrackedCall.exposure?,
        TrackedCall.outcome?]
      cases (FeatureFlags.evaluateFeature context key store).result.experiment with
      | none => rfl
      | some experiment =>
          cases (FeatureFlags.evaluateFeature context key store).result.experimentResult with
          | none => rfl
          | some result => exact hobserve experiment result

theorem serve_of_none (hnone : call.exposure? = none) : tracker.serve call = (none, tracker) := by
  rw [serve_eq, hnone]

theorem serve_of_mem {exposure : Exposure} (hexposure : call.exposure? = some exposure)
    (hmem : exposure ∈ tracker.tracked) : tracker.serve call = (none, tracker) := by
  have htrack : tracker.track exposure = (false, tracker) :=
    if_pos (List.contains_iff_mem.mpr hmem)
  simp only [serve_eq, hexposure, htrack]
  rfl

/-- A new exposure is reported and remembered; a tracker that is full forgets all the others. -/
theorem serve_of_notMem {exposure : Exposure} (hexposure : call.exposure? = some exposure)
    (hnew : exposure ∉ tracker.tracked) :
    tracker.serve call =
      (some exposure,
        { tracker with
          tracked := exposure ::
            if tracker.maxTracked ≤ tracker.tracked.length then [] else tracker.tracked }) := by
  have htrack : tracker.track exposure =
      (true,
        { tracker with
          tracked := exposure ::
            if tracker.maxTracked ≤ tracker.tracked.length then [] else tracker.tracked }) :=
    if_neg fun hcontains => hnew (List.contains_iff_mem.mp hcontains)
  simp only [serve_eq, hexposure, htrack]
  rfl

/-- Whatever is reported is the exposure of the call. -/
theorem exposure_of_serve {exposure : Exposure}
    (hreported : (tracker.serve call).1 = some exposure) :
    call.exposure? = some exposure := by
  cases hexposure : call.exposure? with
  | none =>
      rw [serve_of_none hexposure] at hreported
      cases hreported
  | some other =>
      by_cases hmem : other ∈ tracker.tracked
      · rw [serve_of_mem hexposure hmem] at hreported
        cases hreported
      · rw [serve_of_notMem hexposure hmem] at hreported
        exact hreported

end Call

/-! ## The limit -/

/-- A tracker remembers no exposure twice and not more of them than its limit allows. -/
structure WithinLimit (limit : Nat) (tracker : ExposureTracker) : Prop where
  maxTracked : tracker.maxTracked = limit
  nodup : tracker.tracked.Nodup
  length_le : tracker.tracked.length ≤ max limit 1

namespace WithinLimit

variable {limit : Nat} {tracker : ExposureTracker}

theorem serve (h : tracker.WithinLimit limit) (call : TrackedCall) :
    (tracker.serve call).2.WithinLimit limit := by
  cases hexposure : call.exposure? with
  | none => rwa [serve_of_none hexposure]
  | some exposure =>
      by_cases hmem : exposure ∈ tracker.tracked
      · rwa [serve_of_mem hexposure hmem]
      · rw [serve_of_notMem hexposure hmem]
        refine ⟨h.maxTracked, ?_, ?_⟩ <;> dsimp only <;> split
        · exact List.pairwise_singleton ..
        · exact List.nodup_cons.mpr ⟨hmem, h.nodup⟩
        · exact Nat.le_max_right limit 1
        · rename_i hroom
          rw [h.maxTracked] at hroom
          rw [List.length_cons]
          omega

theorem after (h : tracker.WithinLimit limit) (calls : List TrackedCall) :
    (tracker.after calls).WithinLimit limit := by
  induction calls generalizing tracker with
  | nil => exact h
  | cons call rest ih => exact ih (h.serve call)

end WithinLimit

/-! ## Below the limit -/

/-- A tracker remembers all of the past, and each exposure once. -/
def Remembers (tracker : ExposureTracker) (past : List Exposure) : Prop :=
  tracker.tracked = past.eraseDups.reverse

/-- What comes later adds to the different exposures and takes none away. -/
theorem length_eraseDups_le (past later : List Exposure) :
    past.eraseDups.length ≤ (past ++ later).eraseDups.length := by
  rw [List.eraseDups_append, List.length_append]
  exact Nat.le_add_right ..

namespace Remembers

variable {tracker : ExposureTracker} {past : List Exposure}

theorem mem_tracked (h : tracker.Remembers past) {exposure : Exposure} :
    exposure ∈ tracker.tracked ↔ exposure ∈ past := by
  rw [h, List.mem_reverse, List.mem_eraseDups]

/-- An exposure is reported if it has not occurred before. -/
theorem reported_eq (h : tracker.Remembers past) (call : TrackedCall) :
    (tracker.serve call).1 =
      if call.exposure? ∈ past.map some then none else call.exposure? := by
  cases hexposure : call.exposure? with
  | none => rw [serve_of_none hexposure, ite_self]
  | some exposure =>
      have hpast : some exposure ∈ past.map some ↔ exposure ∈ tracker.tracked := by
        simp [h.mem_tracked]
      by_cases hmem : exposure ∈ tracker.tracked
      · rw [serve_of_mem hexposure hmem, if_pos (hpast.mpr hmem)]
      · rw [serve_of_notMem hexposure hmem, if_neg (mt hpast.mp hmem)]

theorem length_tracked (h : tracker.Remembers past) :
    tracker.tracked.length = past.eraseDups.length := by
  rw [h, List.length_reverse]

/-- While there is room, exactly the exposures that have not occurred before are reported, and the
tracker goes on remembering everything. -/
theorem serve (h : tracker.Remembers past) (call : TrackedCall)
    (hroom : (past ++ call.exposure?.toList).eraseDups.length ≤ tracker.maxTracked) :
    (past ++ call.exposure?.toList).eraseDups = past.eraseDups ++ (tracker.serve call).1.toList ∧
      (tracker.serve call).2.Remembers (past ++ call.exposure?.toList) := by
  cases hexposure : call.exposure? with
  | none =>
      rw [serve_of_none hexposure, Option.toList_none, List.append_nil, List.append_nil]
      exact ⟨rfl, h⟩
  | some exposure =>
      rw [hexposure, Option.toList_some, List.eraseDups_append] at hroom
      rw [Option.toList_some, Remembers, List.eraseDups_append]
      by_cases hpast : exposure ∈ past
      · have hold : ([exposure].removeAll past).eraseDups = [] := by
          simp [List.removeAll, hpast]
        rw [serve_of_mem hexposure (h.mem_tracked.mpr hpast), hold, List.append_nil]
        exact ⟨(List.append_nil _).symm, h⟩
      · have hnew : ([exposure].removeAll past).eraseDups = [exposure] := by
          simp [List.removeAll, hpast, List.eraseDups_cons]
        -- The new exposure is one of those that the limit admits, so the others are fewer.
        have hleft : ¬tracker.maxTracked ≤ tracker.tracked.length := by
          rw [hnew, List.length_append, ← h.length_tracked] at hroom
          exact Nat.not_le_of_lt hroom
        rw [serve_of_notMem hexposure (mt h.mem_tracked.mp hpast), hnew, if_neg hleft]
        refine ⟨rfl, ?_⟩
        rw [List.reverse_append, ← h]
        rfl

/-- Below the limit everything is remembered, and what is reported are the new exposures in the
order in which they occur. -/
theorem after (h : tracker.Remembers past) {calls : List TrackedCall}
    (hroom : (past ++ calls.filterMap TrackedCall.exposure?).eraseDups.length ≤
      tracker.maxTracked) :
    (past ++ calls.filterMap TrackedCall.exposure?).eraseDups =
        past.eraseDups ++ tracker.reports calls ∧
      (tracker.after calls).Remembers (past ++ calls.filterMap TrackedCall.exposure?) := by
  induction calls generalizing tracker past with
  | nil =>
      rw [List.filterMap_nil, List.append_nil]
      exact ⟨(List.append_nil _).symm, h⟩
  | cons call rest ih =>
      have hexposures : past ++ (call :: rest).filterMap TrackedCall.exposure? =
          past ++ call.exposure?.toList ++ rest.filterMap TrackedCall.exposure? := by
        rw [List.filterMap_cons, List.append_assoc]
        cases call.exposure? <;> rfl
      rw [hexposures] at hroom ⊢
      obtain ⟨hreported, hnext⟩ :=
        h.serve call (Nat.le_trans (length_eraseDups_le _ _) hroom)
      -- tracking forgets exposures but keeps its limit, so `hroom` still fits the rest
      have hmax : (tracker.serve call).2.maxTracked = tracker.maxTracked := by
        rw [serve_eq]
        split
        · rfl
        · dsimp only [track]
          split <;> rfl
      rw [← hmax] at hroom
      obtain ⟨hlater, hlast⟩ := ih hnext hroom
      rw [hlater, hreported, List.append_assoc]
      exact ⟨rfl, hlast⟩

end Remembers

/-- **Exposures are reported once.**  Whatever a host evaluates, and whatever contexts it publishes
in between, all that is reported are exposures of users who take part, and a tracker never remembers
more exposures than its limit, or than one.  If no more different exposures occur than the limit
admits, then each of them is reported exactly once, where it occurs first. -/
theorem reported_at_first_occurrence (limit : Nat) (calls : List TrackedCall) :
    let start : ExposureTracker := { maxTracked := limit }
    let exposures := calls.filterMap TrackedCall.exposure?
    (∀ earlier call later, calls = earlier ++ call :: later →
      ∀ exposure, ((start.after earlier).serve call).1 = some exposure →
        ∃ experiment result, call.outcome? = some (experiment, result) ∧
          result.inExperiment = true ∧
          exposure = ⟨result.hashAttribute, result.hashValue, experiment.trackingKey,
            result.variationId⟩) ∧
      ((start.after calls).tracked.Nodup ∧
        (start.after calls).tracked.length ≤ max limit 1) ∧
      (exposures.eraseDups.length ≤ limit →
        start.reports calls = exposures.eraseDups ∧
          ∀ earlier call later, calls = earlier ++ call :: later →
            ((start.after earlier).serve call).1 =
              if call.exposure? ∈ earlier.map TrackedCall.exposure? then none
              else call.exposure?) := by
  intro start exposures
  have hstart : start.Remembers [] := rfl
  have hlimit : start.WithinLimit limit := ⟨rfl, List.nodup_nil, Nat.zero_le _⟩
  have hlast := hlimit.after calls
  refine ⟨fun earlier call later _ exposure hreported =>
    TrackedCall.outcome_of_exposure (exposure_of_serve hreported),
    ⟨hlast.nodup, hlast.length_le⟩, fun hroom => ⟨(hstart.after hroom).1.symm, ?_⟩⟩
  rintro earlier call later rfl
  -- What has occurred up to the call is within the limit as well.
  have hearlier : (earlier.filterMap TrackedCall.exposure?).eraseDups.length ≤ limit := by
    refine Nat.le_trans (length_eraseDups_le _ ((call :: later).filterMap
      TrackedCall.exposure?)) ?_
    rwa [← List.filterMap_append]
  rw [(hstart.after hearlier).2.reported_eq call]
  cases call.exposure? with
  | none => rw [ite_self, ite_self]
  | some exposure => simp [List.mem_filterMap]

/-- A tracker for two exposures, and three evaluations: one of a feature between two for the same
user of the experiment on its own. -/
theorem reported_for_two_users :
    let rule : FeatureRule :=
      { FeatureRule.blank with key := some "t1", variations := some [.string "A", .string "B"] }
    let context (user : String) : Context :=
      { apiKey := "", hostUrl := "", attributes := [("id", .string user)]
        features := [("f", { defaultValue := .null, rules := [rule] })] }
    let experiment : Experiment := { key := "t1", variations := [.string "A", .string "B"] }
    let calls : List TrackedCall :=
      [.running (context "user1") {} experiment, .evaluating (context "user123") {} "f",
        .running (context "user1") {} experiment]
    (calls.filterMap TrackedCall.exposure?).eraseDups.length ≤ 2 ∧
      ({ maxTracked := 2 } : ExposureTracker).reports calls =
        [⟨"id", "user1", "t1", 0⟩, ⟨"id", "user123", "t1", 1⟩] := by
  intro rule context experiment calls
  have hexposures : (calls.filterMap TrackedCall.exposure?).eraseDups =
      [⟨"id", "user1", "t1", 0⟩, ⟨"id", "user123", "t1", 1⟩] := by decide +kernel
  have hroom : (calls.filterMap TrackedCall.exposure?).eraseDups.length ≤ 2 := by
    rw [hexposures]
    decide
  obtain ⟨-, -, hreports⟩ := reported_at_first_occurrence 2 calls
  exact ⟨hroom, (hreports hroom).1.trans hexposures⟩

end ExposureTracker

end FeatureFlags

import FeatureFlags.Proofs.Stream.Retrying

/-!
# A pushed stream is a fold over its events

The payloads that a stream brings are those of its events with no name or the name
`features` (`Refresher.payloads`), and receiving the events is applying these payloads one
by one (`Refresher.receiveAll_eq`).  What becomes of a payload depends on the payload and
the decryptor alone: it is reported once, and if it has definitions these are put into
effect and the payload is kept.  A payload without definitions leaves everything as it is,
so that the refresher is a fold over the other ones (`Refresher.applyAll_eq`), and the last
of them has the last word.

A task that reads a stream does this with the events decoded from all its chunks at once,
and, if the server closes the stream, with the one that is left at the end; only then does
the task deal with the failure that the end of the stream is
(`StreamTask.pushed_definitions`).
-/

namespace FeatureFlags

open Text.Utf8 (Bytes)

namespace Refresher

/-! ## Payloads -/

/-- The payloads that events bring. -/
def payloads (events : List StreamEvent) : List Bytes :=
  (events.filter bringsFeatures).map fun event => Text.Utf8.encode event.data.toList

/-- Applies payloads from the server in order. -/
def applyAll (refresher : Refresher) : List Bytes → Progress Unit
  | [] => ⟨(), refresher, []⟩
  | body :: rest =>
    let first := refresher.apply body true
    let later := first.refresher.applyAll rest
    ⟨(), later.refresher, first.activities ++ later.activities⟩

/-- A payload together with its definitions, if it has any. -/
def defined? (refresher : Refresher) (body : Bytes) : Option (Bytes × Definitions) :=
  match refresher.definitionsOf body with
  | .ok definitions => some (body, definitions)
  | .error _ => none

/-- Puts the definitions of a payload into effect and keeps the payload. -/
def takeUp (refresher : Refresher) (payload : Bytes × Definitions) : Refresher :=
  (refresher.publish payload.2).keepSnapshot payload.1

/-- What the host is told about a payload from the server. -/
def outcomeOf (refresher : Refresher) (body : Bytes) : Activity :=
  .reported ((refresher.definitionsOf body).map fun _ => ()) true

section Apply

variable (refresher : Refresher)

/-- To receive events is to apply the payloads that they bring. -/
theorem receiveAll_eq (events : List StreamEvent) :
    refresher.receiveAll events = refresher.applyAll (payloads events) := by
  induction events generalizing refresher with
  | nil => rfl
  | cons event rest ih =>
      simp only [receiveAll, receive, payloads, List.filter_cons]
      cases bringsFeatures event with
      | true => simp only [if_true, List.map_cons, applyAll, ih, payloads]
      | false => simp only [Bool.false_eq_true, if_false, ih, payloads, List.nil_append]

theorem decryptor_takeUp (payload : Bytes × Definitions) :
    (refresher.takeUp payload).decryptor = refresher.decryptor :=
  decryptor_keepSnapshot _ payload.1

/-- A payload is reported, and taken up if it has definitions. -/
theorem apply_eq (body : Bytes) :
    (refresher.apply body true).refresher =
        (refresher.defined? body).elim refresher refresher.takeUp ∧
      (refresher.apply body true).activities = [refresher.outcomeOf body] := by
  unfold defined? outcomeOf
  cases hbody : refresher.definitionsOf body with
  | ok definitions =>
      rw [apply_of_ok true hbody]
      exact ⟨rfl, rfl⟩
  | error error =>
      rw [apply_of_error true hbody]
      exact ⟨rfl, rfl⟩

/-- Payloads are reported one by one, and those with definitions are taken up one after the
other. -/
theorem applyAll_eq (bodies : List Bytes) :
    refresher.applyAll bodies =
      ⟨(), (bodies.filterMap refresher.defined?).foldl takeUp refresher,
        bodies.map refresher.outcomeOf⟩ := by
  induction bodies generalizing refresher with
  | nil => rfl
  | cons body rest ih =>
      obtain ⟨hrefresher, hactivities⟩ := refresher.apply_eq body
      have hdecryptor : (refresher.apply body true).refresher.decryptor = refresher.decryptor := by
        rw [hrefresher]
        cases refresher.defined? body with
        | none => rfl
        | some payload => exact refresher.decryptor_takeUp payload
      -- What a later payload comes to is what it would have come to at the beginning.
      have hdefined : (refresher.apply body true).refresher.defined? = refresher.defined? := by
        funext later
        rw [defined?, definitionsOf_congr hdecryptor, defined?]
      have houtcomes : (refresher.apply body true).refresher.outcomeOf = refresher.outcomeOf := by
        funext later
        rw [outcomeOf, definitionsOf_congr hdecryptor, outcomeOf]
      rw [applyAll, ih, hdefined, houtcomes, hactivities, hrefresher, List.filterMap_cons]
      cases refresher.defined? body <;> rfl

/-- The last payload that is taken up has the last word on the definitions, and nothing else of the
context changes. -/
theorem current_foldl_takeUp (payloads : List (Bytes × Definitions)) :
    (payloads.foldl takeUp refresher).contexts.current =
      match payloads.getLast? with
      | some (_, definitions) =>
        refresher.contexts.current.withDefinitions definitions.features definitions.savedGroups
      | none => refresher.contexts.current := by
  induction payloads generalizing refresher with
  | nil => rfl
  | cons payload rest ih =>
      have hcurrent : (refresher.takeUp payload).contexts.current =
          refresher.contexts.current.withDefinitions payload.2.features payload.2.savedGroups :=
        congrArg ContextStore.current (contexts_keepSnapshot _ payload.1)
      rw [List.foldl_cons, ih, hcurrent]
      cases rest with
      | nil => rfl
      | cons next later =>
          rw [List.getLast?_cons_cons]
          cases hlast : (next :: later).getLast? with
          | none => cases List.getLast?_eq_none_iff.mp hlast
          | some last => rfl

end Apply

end Refresher

/-! ## Streams -/

namespace StreamTask

/-- The signals of a stream that is opened under a number, brings chunks, and breaks or is
closed. -/
def streamSignals (stream : Nat) (chunks : List Bytes) (breach : Option Error) :
    List StreamSignal :=
  .accepted stream :: (chunks.map .chunk ++ [StreamAttempt.ending breach])

/-- The events of a stream.  Only a stream that is closed has an event at its end. -/
def streamEvents (chunks : List Bytes) (breach : Option Error) : List StreamEvent :=
  let (events, last) := EventDecoder.push {} chunks.flatten
  events ++ if breach.isNone then last.finish.1.toList else []

/-- Reading a stream from its beginning to its end is receiving its events, without failures on the
counter, and then dealing with the end. -/
theorem run_stream (refresher : Refresher) (url : String) (stream : Nat) (chunks : List Bytes)
    (breach : Option Error) :
    run (some ⟨url, .opening⟩) refresher (streamSignals stream chunks breach) =
      let received := ({ refresher with backoff := refresher.backoff.reset } : Refresher).receiveAll
        (streamEvents chunks breach)
      let last := (⟨url, .opening⟩ : StreamTask).fail received.refresher
        (breach.getD .streamClosed)
      { last with activities := received.activities ++ last.activities } := by
  have hread := run_reading_ending { refresher with backoff := refresher.backoff.reset } url stream
    {} chunks breach
  rw [EventDecoder.pushAll_eq_push List.not_mem_nil] at hread
  exact hread

/-- **A pushed stream is a fold over its events.**  However a stream is cut into chunks, and whether
the server closes it or it breaks, reading it to its end is applying the payloads of its events in
order and then dealing with the end.  Each payload is reported once, with its own outcome.  Those
that have definitions are put into effect and kept one after the other, whatever stands between
them, so that the definitions in effect at the end are those of the last one, if there is one. -/
theorem pushed_definitions (refresher : Refresher) (url : String) (stream : Nat)
    (chunks : List Bytes) (breach : Option Error) :
    let bodies := Refresher.payloads (streamEvents chunks breach)
    let defined := bodies.filterMap refresher.defined?
    let opened : Refresher := { refresher with backoff := refresher.backoff.reset }
    let applied := opened.applyAll bodies
    let last := (⟨url, .opening⟩ : StreamTask).fail applied.refresher (breach.getD .streamClosed)
    let ran := run (some ⟨url, .opening⟩) refresher (streamSignals stream chunks breach)
    ran = { last with activities := applied.activities ++ last.activities } ∧
      applied.activities = bodies.map refresher.outcomeOf ∧
      applied.refresher = defined.foldl Refresher.takeUp opened ∧
      ran.refresher.persistence = (defined.foldl Refresher.takeUp opened).persistence ∧
      ran.refresher.contexts.current =
        match defined.getLast? with
        | some (_, definitions) =>
          refresher.contexts.current.withDefinitions definitions.features definitions.savedGroups
        | none => refresher.contexts.current := by
  intro bodies defined opened applied last ran
  have hran : ran = { last with activities := applied.activities ++ last.activities } := by
    have hrun := run_stream refresher url stream chunks breach
    simp only [Refresher.receiveAll_eq] at hrun
    exact hrun
  have happlied : applied =
      ⟨(), defined.foldl Refresher.takeUp opened, bodies.map refresher.outcomeOf⟩ :=
    opened.applyAll_eq bodies
  -- The end of the stream is no matter of the definitions.
  have hcontent : ran.refresher.content = (defined.foldl Refresher.takeUp opened).content := by
    rw [hran]
    refine (content_fail _ applied.refresher _).trans ?_
    rw [happlied]
  refine ⟨hran, congrArg (·.activities) happlied, congrArg (·.refresher) happlied,
    congrArg (·.persistence) hcontent, ?_⟩
  have hcontexts : ran.refresher.contexts = (defined.foldl Refresher.takeUp opened).contexts :=
    congrArg (·.contexts) hcontent
  rw [hcontexts]
  exact opened.current_foldl_takeUp defined

end StreamTask

end FeatureFlags

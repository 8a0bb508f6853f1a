import FeatureFlags.Proofs.Refresher.Snapshot
import FeatureFlags.Proofs.Stream.Backoff
import FeatureFlags.Proofs.Stream.Chunks

/-!
# How a stream task retries

To the server a stream task is a row of attempts, each of which fails in the end: the
stream is refused, or it is opened, brings some chunks, and breaks or is closed
(`StreamAttempt`).  Behind them one more attempt may be under way (`StreamStage`).  What
the task does about all this is laid down here without its phases and its counter, from
the number of each failure alone (`StreamAttempt.trace`): a failure is the first one if
its stream had been opened, and otherwise one more than the failure before.

A single attempt takes a task from one pause to the failure that ends the attempt
(`StreamTask.run_attempt`), with the failures before that one on the counter; what has been
received on the way is reported and counts for nothing.  By induction a task does what
the row of attempts and the last one ask for (`StreamTask.run_attempts`).
-/

namespace FeatureFlags

open Text.Utf8 (Bytes)

/-! ## Attempts -/

/-- How far an attempt to read a stream has got that has not failed yet. -/
inductive StreamStage
  /-- The pause before the attempt is not over. -/
  | waiting
  | opening
  /-- The stream has been opened under a number and has brought chunks. -/
  | reading (stream : Nat) (chunks : List Bytes)

namespace StreamStage

/-- The signals up to a stage, from the end of the pause before the attempt. -/
def signals : StreamStage → List StreamSignal
  | waiting => []
  | opening => [.resumed]
  | reading stream chunks => .resumed :: .accepted stream :: chunks.map .chunk

/-- What a task has done up to a stage. -/
def trace (url : String) (report? : StreamEvent → Option Activity) : StreamStage → List Activity
  | waiting => []
  | opening => [.opened url]
  | reading _ chunks => .opened url :: (EventDecoder.pushAll {} chunks).1.filterMap report?

end StreamStage

/-- How an attempt to read a stream goes. -/
inductive StreamAttempt
  /-- The stream cannot be opened. -/
  | refused (error : Error)
  /-- The stream is opened under a number and brings chunks until it breaks; without an error the
  server closes it. -/
  | accepted (stream : Nat) (chunks : List Bytes) (breach : Option Error)

namespace Backoff

/-- What a task gives up with at a failure that has a number, if it does: with the failure if that
is fatal, and otherwise if no retry is left. -/
def lastError? (limits : Backoff) (number : Nat) (failure : Error) : Option Error :=
  if failure.isFatal then some failure
  else if number ≤ limits.maxRetries.toNat then none
  else some (.retriesExhausted limits.maxRetries.toNat)

/-- A failure after which the task goes on is within the limit. -/
theorem le_of_lastError?_eq_none {limits : Backoff} {number : Nat} {failure : Error}
    (hnone : limits.lastError? number failure = none) : number ≤ limits.maxRetries.toNat := by
  unfold lastError? at hnone
  split at hnone
  · cases hnone
  · split at hnone
    · assumption
    · cases hnone

end Backoff

namespace StreamAttempt

/-- How an open stream ends: it breaks, or it is closed. -/
def ending : Option Error → StreamSignal
  | some error => .failed error
  | none => .closed

/-- The signals of an attempt, from the end of the pause before it. -/
def signals : StreamAttempt → List StreamSignal
  | refused error => StreamStage.opening.signals ++ [.failed error]
  | accepted stream chunks breach =>
    (StreamStage.reading stream chunks).signals ++ [ending breach]

/-- The failure that ends an attempt. -/
def failure : StreamAttempt → Error
  | refused error => error
  | accepted _ _ breach => breach.getD .streamClosed

/-- The events that are received in an attempt. Only the end of a stream that is closed completes
the event at its end. -/
def events : StreamAttempt → List StreamEvent
  | refused _ => []
  | accepted _ chunks breach =>
    let (events, last) := EventDecoder.pushAll {} chunks
    events ++ if breach.isNone then last.finish.1.toList else []

/-- The number of the failure that ends an attempt among the failures since the stream was opened
last, after some earlier ones. -/
def failureNumber (earlier : Nat) : StreamAttempt → Nat
  | refused _ => earlier + 1
  | accepted .. => 1

theorem failureNumber_pos (earlier : Nat) (attempt : StreamAttempt) :
    0 < attempt.failureNumber earlier := by
  cases attempt <;> exact Nat.succ_pos _

theorem failureNumber_le (earlier : Nat) (attempt : StreamAttempt) :
    attempt.failureNumber earlier ≤ earlier + 1 := by
  cases attempt <;> simp [failureNumber]

variable (limits : Backoff)

/-- What a task gives up with in the course of some attempts, if it does. -/
def lastError? : Nat → List StreamAttempt → Option Error
  | _, [] => none
  | earlier, attempt :: rest =>
    let number := attempt.failureNumber earlier
    (limits.lastError? number attempt.failure).or (lastError? number rest)

/-- What a task does in the course of some attempts and up to a stage of another one: it opens the
stream, reports what it receives on it, and then either gives up or pauses before the next
attempt. -/
def trace (url : String) (report? : StreamEvent → Option Activity) (stage : StreamStage) :
    Nat → List StreamAttempt → List Activity
  | _, [] => stage.trace url report?
  | earlier, attempt :: rest =>
    let number := attempt.failureNumber earlier
    .opened url :: attempt.events.filterMap report? ++
      match limits.lastError? number attempt.failure with
      | some error => [.reported (.error error) true]
      | none => .pausing (limits.pauseAfter number) :: trace url report? stage number rest

end StreamAttempt

/-! ## Receiving -/

namespace Refresher

/-- What is reported about an event: the outcome of applying its payload, if it brings features. -/
def reportOf? (refresher : Refresher) (event : StreamEvent) : Option Activity :=
  if bringsFeatures event then
    some (.reported
      ((refresher.definitionsOf (Text.Utf8.encode event.data.toList)).map fun _ => ()) true)
  else none

theorem reportOf?_congr {first second : Refresher}
    (hdecryptor : first.decryptor = second.decryptor) : first.reportOf? = second.reportOf? := by
  funext event
  simp only [reportOf?, definitionsOf_congr hdecryptor]

variable (refresher : Refresher)

theorem activities_receive (event : StreamEvent) :
    (refresher.receive event).activities = (refresher.reportOf? event).toList := by
  unfold receive reportOf?
  cases bringsFeatures event with
  | false => rfl
  | true =>
      cases hbody : refresher.definitionsOf (Text.Utf8.encode event.data.toList) with
      | ok definitions => simp only [if_true, apply_of_ok true hbody]; rfl
      | error error => simp only [if_true, apply_of_error true hbody]; rfl

/-- Receiving an event changes the contexts and the persistence and nothing else. -/
theorem receive_frame (event : StreamEvent) :
    ∃ contexts persistence,
      (refresher.receive event).refresher = { refresher with contexts, persistence } := by
  obtain ⟨-, hsame⟩ | ⟨body, definitions, -, -, hreceived⟩ := refresher.refresher_receive event
  · exact ⟨_, _, hsame⟩
  · obtain ⟨persistence, hkept⟩ := (refresher.publish definitions).keepSnapshot_frame body
    exact ⟨_, persistence, hreceived.trans hkept⟩

theorem receiveAll_frame (events : List StreamEvent) :
    ∃ contexts persistence,
      (refresher.receiveAll events).refresher = { refresher with contexts, persistence } := by
  induction events generalizing refresher with
  | nil => exact ⟨_, _, rfl⟩
  | cons event rest ih =>
      obtain ⟨contexts, persistence, hfirst⟩ := refresher.receive_frame event
      obtain ⟨contexts', persistence', hrest⟩ := ih (refresher.receive event).refresher
      refine ⟨contexts', persistence', hrest.trans ?_⟩
      rw [hfirst]

/-- Events are reported one by one, and what is received does not change the reports. -/
theorem activities_receiveAll (events : List StreamEvent) :
    (refresher.receiveAll events).activities = events.filterMap refresher.reportOf? := by
  induction events generalizing refresher with
  | nil => rfl
  | cons event rest ih =>
      have hrest := ih (refresher.receive event).refresher
      rw [reportOf?_congr (refresher.decryptor_receive event)] at hrest
      rw [receiveAll, activities_receive, hrest, List.filterMap_cons]
      cases refresher.reportOf? event <;> rfl

theorem receiveAll_append (events more : List StreamEvent) :
    refresher.receiveAll (events ++ more) =
      let first := refresher.receiveAll events
      let later := first.refresher.receiveAll more
      ⟨(), later.refresher, first.activities ++ later.activities⟩ := by
  induction events generalizing refresher with
  | nil => rfl
  | cons event rest ih => simp only [List.cons_append, receiveAll, ih, List.append_assoc]

/-- The connection is active, some failures in a row have been counted, and reports are made in
some way. -/
structure Counting (limits : Backoff) (report? : StreamEvent → Option Activity) (failures : Nat)
    (refresher : Refresher) : Prop where
  active : refresher.connection.state = .active
  backoff : refresher.backoff = limits.withFailures failures
  reports : refresher.reportOf? = report?

namespace Counting

variable {limits : Backoff} {report? : StreamEvent → Option Activity} {failures : Nat}
  {refresher : Refresher}

theorem activities_receiveAll (h : refresher.Counting limits report? failures)
    (events : List StreamEvent) :
    (refresher.receiveAll events).activities = events.filterMap report? := by
  rw [refresher.activities_receiveAll, h.reports]

/-- A stream that is opened ends the row of failures. -/
theorem reset (h : refresher.Counting limits report? failures) :
    ({ refresher with backoff := refresher.backoff.reset } : Refresher).Counting limits report? 0 :=
  ⟨h.active, congrArg Backoff.reset h.backoff |>.trans (limits.reset_withFailures failures),
    h.reports⟩

/-- What is received does not bear on the count. -/
theorem receiveAll (h : refresher.Counting limits report? failures) (events : List StreamEvent) :
    (refresher.receiveAll events).refresher.Counting limits report? failures := by
  obtain ⟨contexts, persistence, hreceived⟩ := refresher.receiveAll_frame events
  rw [hreceived]
  exact ⟨h.active, h.backoff, h.reports⟩

end Counting

end Refresher

/-! ## Runs of a task -/

namespace StreamTask

/-- A task takes signals in order; once it has ended, it takes none. -/
def run : Option StreamTask → Refresher → List StreamSignal → Step
  | task, refresher, [] => ⟨task, refresher, []⟩
  | none, refresher, _ :: _ => ⟨none, refresher, []⟩
  | some task, refresher, signal :: rest =>
    let first := task.resume refresher signal
    let later := run first.result first.refresher rest
    { later with activities := first.activities ++ later.activities }

theorem run_none (refresher : Refresher) (signals : List StreamSignal) :
    run none refresher signals = ⟨none, refresher, []⟩ := by
  cases signals <;> rfl

theorem run_append (task : Option StreamTask) (refresher : Refresher)
    (signals more : List StreamSignal) :
    run task refresher (signals ++ more) =
      let first := run task refresher signals
      let later := run first.result first.refresher more
      { later with activities := first.activities ++ later.activities } := by
  induction signals generalizing task refresher with
  | nil =>
      cases task <;> rfl
  | cons signal rest ih =>
      cases task with
      | none => simp only [run_none, List.append_nil]
      | some task => simp only [List.cons_append, run, ih, List.append_assoc]

/-- A task that reads a stream receives the events of the chunks. -/
theorem run_chunks (url : String) (stream : Nat) (decoder : EventDecoder) (refresher : Refresher)
    (chunks : List Bytes) :
    run (some ⟨url, .reading stream decoder⟩) refresher (chunks.map .chunk) =
      let received := refresher.receiveAll (decoder.pushAll chunks).1
      ⟨some ⟨url, .reading stream (decoder.pushAll chunks).2⟩, received.refresher,
        received.activities⟩ := by
  induction chunks generalizing decoder refresher with
  | nil => rfl
  | cons chunk rest ih =>
      simp only [List.map_cons, run, resume, receivingFirst, ih, EventDecoder.pushAll,
        Refresher.receiveAll_append, List.append_nil]

/-- A task that reads a stream to its end receives the events and then deals with the end. -/
theorem run_reading_ending (refresher : Refresher) (url : String) (stream : Nat)
    (decoder : EventDecoder) (chunks : List Bytes) (breach : Option Error) :
    run (some ⟨url, .reading stream decoder⟩) refresher
        (chunks.map .chunk ++ [StreamAttempt.ending breach]) =
      let decoded := decoder.pushAll chunks
      let received := refresher.receiveAll
        (decoded.1 ++ if breach.isNone then decoded.2.finish.1.toList else [])
      let last := (⟨url, .opening⟩ : StreamTask).fail received.refresher
        (breach.getD .streamClosed)
      { last with activities := received.activities ++ last.activities } := by
  rw [run_append, run_chunks]
  cases breach with
  | some error =>
      simp only [StreamAttempt.ending, run, resume, Option.isNone_some, Bool.false_eq_true,
        if_false, List.append_nil, Option.getD_some]
      rfl
  | none =>
      simp only [StreamAttempt.ending, run, resume, receivingFirst, Option.isNone_none, if_true,
        List.append_nil, Option.getD_none, Refresher.receiveAll_append, List.append_assoc]
      rfl

/-- The task waits to be run, for the first time or after a pause. -/
def IsDue (task : StreamTask) : Prop :=
  task.phase = .starting ∨ ∃ delay, task.phase = .pausing delay

/-- A task that is due opens the stream. -/
theorem run_resumed {task : StreamTask} (hdue : task.IsDue) {refresher : Refresher}
    (hactive : refresher.connection.state = .active) (signals : List StreamSignal) :
    run (some task) refresher (.resumed :: signals) =
      let opening := run (some ⟨task.url, .opening⟩) refresher signals
      { opening with activities := .opened task.url :: opening.activities } := by
  have hbegin : task.begin refresher =
      ⟨some ⟨task.url, .opening⟩, refresher, [.opened task.url]⟩ :=
    if_pos (decide_eq_true hactive)
  have hresume : task.resume refresher .resumed = task.begin refresher := by
    obtain ⟨url, phase⟩ := task
    rcases hdue with rfl | ⟨delay, rfl⟩ <;> rfl
  rw [run, hresume, hbegin]
  rfl

variable {limits : Backoff} {report? : StreamEvent → Option Activity} {refresher : Refresher}

/-- At a failure a task gives up or pauses, by the number of the failure. -/
theorem fail_of_counting {failures : Nat} (h : refresher.Counting limits report? failures)
    (hfailures : failures ≤ limits.maxRetries.toNat) (task : StreamTask) (error : Error) :
    task.fail refresher error =
      match limits.lastError? (failures + 1) error with
      | some last => giveUp refresher last
      | none =>
        ⟨some { task with phase := .pausing (limits.pauseAfter (failures + 1)) },
          { refresher with backoff := limits.withFailures (failures + 1) },
          [.pausing (limits.pauseAfter (failures + 1))]⟩ := by
  unfold fail Backoff.lastError?
  cases error.isFatal with
  | true => rfl
  | false =>
      have hretry := Backoff.shouldRetry_withFailures hfailures
      simp only [Bool.false_eq_true, if_false, retry, h.backoff, Nat.succ_le_iff]
      by_cases hleft : failures < limits.maxRetries.toNat
      · rw [if_pos hleft, if_pos (hretry.mpr hleft), limits.recordFailure_withFailures,
          limits.nextDelay_withFailures]
        rfl
      · have hspent : failures = limits.maxRetries.toNat :=
          Nat.le_antisymm hfailures (Nat.le_of_not_lt hleft)
        rw [if_neg hleft, if_neg fun h => hleft (hretry.mp h),
          Backoff.attempt_withFailures hfailures, hspent]

/-- A stream that has been opened is read, with no failures on the counter. -/
theorem run_reading {task : StreamTask} (hdue : task.IsDue) {earlier : Nat}
    (h : refresher.Counting limits report? earlier) (stream : Nat) (chunks : List Bytes) :
    ∃ last : Refresher, last.Counting limits report? 0 ∧
      run (some task) refresher (StreamStage.reading stream chunks).signals =
        ⟨some ⟨task.url, .reading stream (EventDecoder.pushAll {} chunks).2⟩, last,
          (StreamStage.reading stream chunks).trace task.url report?⟩ := by
  refine ⟨_, h.reset.receiveAll (EventDecoder.pushAll {} chunks).1, ?_⟩
  rw [StreamStage.signals, run_resumed hdue h.active]
  simp only [run, resume, run_chunks, h.reset.activities_receiveAll, List.nil_append,
    StreamStage.trace]

/-- Before an attempt fails, its task is alive on an active connection. -/
theorem run_stage {task : StreamTask} (hdue : task.IsDue) {earlier : Nat}
    (h : refresher.Counting limits report? earlier) (stage : StreamStage) :
    let ran := run (some task) refresher stage.signals
    ran.activities = stage.trace task.url report? ∧ ran.result.isNone = false ∧
      ran.refresher.connection.state = .active := by
  cases stage with
  | waiting => exact ⟨rfl, rfl, h.active⟩
  | opening =>
      rw [StreamStage.signals, run_resumed hdue h.active]
      exact ⟨rfl, rfl, h.active⟩
  | reading stream chunks =>
      obtain ⟨last, hlast, hrun⟩ := run_reading hdue h stream chunks
      rw [hrun]
      exact ⟨rfl, rfl, hlast.active⟩

/-- An attempt takes a task that is due to the failure that ends the attempt: the stream has been
opened, what has come has been reported, and the failures before this one have been counted. -/
theorem run_attempt {task : StreamTask} (hdue : task.IsDue) {earlier : Nat}
    (h : refresher.Counting limits report? earlier) (attempt : StreamAttempt) :
    ∃ (failing : StreamTask) (last : Refresher), failing.url = task.url ∧
      last.Counting limits report? (attempt.failureNumber earlier - 1) ∧
      run (some task) refresher attempt.signals =
        let final := failing.fail last attempt.failure
        { final with
          activities :=
            .opened task.url :: attempt.events.filterMap report? ++ final.activities } := by
  cases attempt with
  | refused error =>
      refine ⟨⟨task.url, .opening⟩, refresher, rfl, h, ?_⟩
      rw [StreamAttempt.signals, StreamStage.signals, List.singleton_append,
        run_resumed hdue h.active]
      simp [run, resume, StreamAttempt.events, StreamAttempt.failure]
  | accepted stream chunks breach =>
      -- the connection was accepted, so the failures before it no longer count
      have hopened := h.reset
      have hread := run_reading_ending { refresher with backoff := refresher.backoff.reset }
        task.url stream {} chunks breach
      dsimp only at hread
      rw [hopened.activities_receiveAll] at hread
      refine ⟨⟨task.url, .opening⟩, _, rfl,
        hopened.receiveAll (StreamAttempt.events (.accepted stream chunks breach)), ?_⟩
      rw [StreamAttempt.signals, StreamStage.signals, List.cons_append, run_resumed hdue h.active,
        List.cons_append]
      simp only [run, resume, hread]
      rfl

/-- **A task does what its attempts ask for.**  It makes the attempts, the last one up to its stage,
until it gives up, and then nothing more: it has ended, and the connection is stopped. -/
theorem run_attempts {task : StreamTask} (hdue : task.IsDue) {earlier : Nat}
    (h : refresher.Counting limits report? earlier) (hearlier : earlier ≤ limits.maxRetries.toNat)
    (attempts : List StreamAttempt) (stage : StreamStage) :
    let ran := run (some task) refresher
      (attempts.flatMap StreamAttempt.signals ++ stage.signals)
    let lastError? := StreamAttempt.lastError? limits earlier attempts
    ran.activities = StreamAttempt.trace limits task.url report? stage earlier attempts ∧
      ran.result.isNone = lastError?.isSome ∧
      ran.refresher.connection.state = if lastError?.isSome then .stopped else .active := by
  induction attempts generalizing task refresher earlier with
  | nil => exact run_stage hdue h stage
  | cons attempt rest ih =>
      obtain ⟨failing, last, hurl, hlast, hrun⟩ := run_attempt hdue h attempt
      -- The failures before this one are the earlier ones or, behind an opened stream, none; either
      -- way the counter is still within the limit.
      have hpos := attempt.failureNumber_pos earlier
      have hle := attempt.failureNumber_le earlier
      have hfail := fail_of_counting hlast (by omega) failing attempt.failure
      rw [Nat.sub_add_cancel hpos] at hfail
      rw [List.flatMap_cons, List.append_assoc, run_append, hrun, StreamAttempt.trace,
        StreamAttempt.lastError?]
      cases hverdict : limits.lastError? (attempt.failureNumber earlier) attempt.failure with
      | some error =>
          rw [hverdict] at hfail
          simp only [hfail, giveUp, run_none, List.append_nil, Option.some_or,
            Connection.stop, Connection.state_turn, true_and]
          exact ⟨rfl, rfl⟩
      | none =>
          rw [hverdict] at hfail
          -- The task is due again behind the pause, with this failure on the counter.
          have hnext : ({ last with
              backoff := limits.withFailures (attempt.failureNumber earlier) } : Refresher).Counting
              limits report? (attempt.failureNumber earlier) :=
            ⟨hlast.active, rfl, hlast.reports⟩
          have hpausing : ({ failing with
              phase := .pausing (limits.pauseAfter (attempt.failureNumber earlier)) } :
              StreamTask).IsDue := Or.inr ⟨_, rfl⟩
          obtain ⟨hactivities, hresult, hstate⟩ :=
            ih hpausing hnext (Backoff.le_of_lastError?_eq_none hverdict)
          simp only [hfail, Option.none_or]
          refine ⟨?_, hresult, hstate⟩
          rw [hactivities, hurl, List.append_assoc]
          rfl

/-- Three retries of a stream that is always refused, with pauses of one, two and four seconds. -/
example (url : String) :
    StreamAttempt.trace { maxRetries := 3 } url (fun _ => none) .waiting 0
        (List.replicate 4 (.refused .streamClosed)) =
      [.opened url, .pausing 1000000000, .opened url, .pausing 2000000000, .opened url,
        .pausing 4000000000, .opened url, .reported (.error (.retriesExhausted 3)) true] := rfl

end StreamTask

end FeatureFlags

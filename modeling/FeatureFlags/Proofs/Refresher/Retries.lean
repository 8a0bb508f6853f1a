import FeatureFlags.Proofs.Refresher.Numbering
import FeatureFlags.Proofs.Stream.Retrying

/-!
# Retries next to everything else

A stream task shares its refresher with the fetches of the host, with context updates and
with calls that wait for their turn.  None of these bears on how it retries: a task looks
at the connection, the backoff and the decryptor only (`StreamTask.resume_congr`), and as
long as nobody stops the connection, aborts the task or starts another one, these are what
the task itself has made of them (`Client.Runs.after`).

So whatever happens in between, a task that has been started makes its attempts with the
delays and within the budget of its backoff (`Client.retries_within_budget`).
-/

namespace FeatureFlags

/-! ## What a task looks at -/

/-- Two refreshers that a stream task cannot tell apart. -/
structure Refresher.SameStream (first second : Refresher) : Prop where
  connection : first.connection = second.connection
  backoff : first.backoff = second.backoff
  decryptor : first.decryptor = second.decryptor

/-- Two steps with one result and one row of activities, which leave refreshers that a stream task
cannot tell apart. -/
structure Progress.Alike {α : Type} (first second : Progress α) : Prop where
  result : first.result = second.result
  refresher : first.refresher.SameStream second.refresher
  activities : first.activities = second.activities

namespace Refresher.SameStream

variable {first second third : Refresher}

theorem refl (refresher : Refresher) : refresher.SameStream refresher := ⟨rfl, rfl, rfl⟩

theorem trans (h : first.SameStream second) (h' : second.SameStream third) :
    first.SameStream third :=
  ⟨h.connection.trans h'.connection, h.backoff.trans h'.backoff, h.decryptor.trans h'.decryptor⟩

theorem receiveAll (h : first.SameStream second) (events : List StreamEvent) :
    (first.receiveAll events).Alike (second.receiveAll events) := by
  obtain ⟨contexts, persistence, hfirst⟩ := first.receiveAll_frame events
  obtain ⟨contexts', persistence', hsecond⟩ := second.receiveAll_frame events
  refine ⟨rfl, ?_, ?_⟩
  · rw [hfirst, hsecond]
    exact ⟨h.connection, h.backoff, h.decryptor⟩
  · rw [activities_receiveAll, activities_receiveAll, reportOf?_congr h.decryptor]

end Refresher.SameStream

/-! ## What the host does -/

namespace Refresher

variable (refresher : Refresher)

theorem sameStream_keepSnapshot (body : Text.Utf8.Bytes) :
    (refresher.keepSnapshot body).SameStream refresher := by
  obtain ⟨persistence, hkept⟩ := refresher.keepSnapshot_frame body
  rw [hkept]
  exact ⟨rfl, rfl, rfl⟩

theorem sameStream_apply (body : Text.Utf8.Bytes) (isRemote : Bool) :
    (refresher.apply body isRemote).refresher.SameStream refresher := by
  cases hbody : refresher.definitionsOf body with
  | error error =>
      rw [apply_of_error isRemote hbody]
      exact .refl refresher
  | ok definitions =>
      rw [apply_of_ok isRemote hbody]
      have hpublished : (refresher.publish definitions).SameStream refresher := ⟨rfl, rfl, rfl⟩
      cases isRemote with
      | true => exact (sameStream_keepSnapshot _ body).trans hpublished
      | false => exact hpublished

theorem sameStream_loadCached : refresher.loadCached.refresher.SameStream refresher := by
  unfold loadCached
  split
  · exact .refl refresher
  · exact refresher.sameStream_apply _ false

theorem sameStream_beginRefresh : refresher.beginRefresh.refresher.SameStream refresher := by
  unfold beginRefresh
  split <;> exact ⟨rfl, rfl, rfl⟩

theorem sameStream_endRefresh (url : Url) (answer : Except Error Response) :
    (refresher.endRefresh url answer).refresher.SameStream refresher := by
  obtain ⟨-, hsame⟩ | ⟨response, definitions, -, -, htaken⟩ :=
    refresher.refresher_endRefresh url answer
  · rw [hsame]
    exact .refl refresher
  · rw [htaken]
    have hkept := sameStream_keepSnapshot (refresher.publish definitions) response.body
    exact ⟨hkept.connection, hkept.backoff, hkept.decryptor⟩

end Refresher

namespace StreamTask

variable {first second : Refresher}

theorem giveUp_congr (h : first.SameStream second) (error : Error) :
    (giveUp first error).Alike (giveUp second error) :=
  ⟨rfl, ⟨congrArg (·.stop.2) h.connection, h.backoff, h.decryptor⟩, rfl⟩

theorem fail_congr (h : first.SameStream second) (task : StreamTask) (error : Error) :
    (task.fail first error).Alike (task.fail second error) := by
  unfold fail retry
  rw [h.backoff]
  split
  · exact giveUp_congr h error
  · split
    · exact ⟨rfl, ⟨h.connection, rfl, h.decryptor⟩, rfl⟩
    · exact giveUp_congr h _

theorem begin_congr (h : first.SameStream second) (task : StreamTask) :
    (task.begin first).Alike (task.begin second) := by
  unfold begin
  rw [h.connection]
  split <;> exact ⟨rfl, h, rfl⟩

/-- A task takes a signal in the same way whatever else has happened to its refresher. -/
theorem resume_congr (h : first.SameStream second) (task : StreamTask) (signal : StreamSignal) :
    (task.resume first signal).Alike (task.resume second signal) := by
  unfold resume
  split
  · exact ⟨rfl, h, rfl⟩
  · exact begin_congr h task
  · exact begin_congr h task
  · exact ⟨rfl, ⟨h.connection, congrArg Backoff.reset h.backoff, h.decryptor⟩, rfl⟩
  · exact fail_congr h task _
  · exact fail_congr h task _
  · rename_i bytes stream decoder _
    have hreceived := h.receiveAll (decoder.push bytes).1
    exact ⟨rfl, hreceived.refresher, by simp only [receivingFirst, hreceived.activities]⟩
  · rename_i stream decoder _
    have hreceived := h.receiveAll decoder.finish.1.toList
    have hfailed := fail_congr hreceived.refresher task .streamClosed
    exact ⟨hfailed.result, hfailed.refresher, by
      simp only [receivingFirst, hreceived.activities, hfailed.activities]⟩
  · exact ⟨rfl, h, rfl⟩

end StreamTask

/-! ## A task among others -/

namespace ClientAction

/-- The signal that an action gives to a task. -/
def signal? (number : Nat) : ClientAction → Option StreamSignal
  | .move (.resume task signal) => if task = number then some signal else none
  | _ => none

/-- An action that neither stops or replaces a task nor lets another one run. A call of the host
does neither before it gets the lock. -/
inductive Spares (number : Nat) : ClientAction → Prop
  | beginFetch : Spares number .beginFetch
  | endFetch (request : Nat) (answer : Except Error Response) :
      Spares number (.endFetch request answer)
  | loadCached : Spares number .loadCached
  | updateContext (change : Context → Context) : Spares number (.updateContext change)
  | callStart : Spares number (.move .callStart)
  | callShutdown : Spares number (.move .callShutdown)
  | reap (task : Nat) : Spares number (.move (.reap task))
  | resume (signal : StreamSignal) : Spares number (.move (.resume number signal))

end ClientAction

namespace Client

/-- An action that is not a move makes no difference to a stream. -/
theorem sameStream_step (client : Client) (action : ClientAction)
    (hhost : ∀ move, action ≠ .move move) :
    ∃ refresher : Refresher, refresher.SameStream client.refresher ∧
      (client.step action).1.supervisor = { client.supervisor with refresher } := by
  cases action with
  | move move => exact absurd rfl (hhost move)
  | beginFetch =>
      refine ⟨_, client.refresher.sameStream_beginRefresh, ?_⟩
      dsimp only [step, beginFetch]
      split <;> rfl
  | endFetch request answer =>
      dsimp only [step, endFetch]
      cases client.requests.lookup request with
      | none => exact ⟨client.refresher, .refl _, rfl⟩
      | some url => exact ⟨_, client.refresher.sameStream_endRefresh url answer, rfl⟩
  | loadCached => exact ⟨_, client.refresher.sameStream_loadCached, rfl⟩
  | updateContext change =>
      let updated : Refresher :=
        { client.refresher with contexts := client.refresher.contexts.update change }
      have hsame : updated.SameStream client.refresher := ⟨rfl, rfl, rfl⟩
      exact ⟨updated, hsame, rfl⟩

/-- What a task does in the course of some actions. -/
def activitiesOf (number : Nat) (client : Client) : List ClientAction → List Activity
  | [] => []
  | action :: rest =>
    let (next, activities) := client.step action
    (if (action.signal? number).isSome then activities else []) ++ next.activitiesOf number rest

/-- A task runs, or has ended, and the refresher is as far as the task can tell a given one. -/
structure Runs (number : Nat) (client : Client) (task : Option StreamTask)
    (refresher : Refresher) : Prop where
  lookup : client.supervisor.tasks.lookup number = task
  spared : number ∉ client.supervisor.aborted
  same : client.refresher.SameStream refresher

namespace Runs

variable {number : Nat} {client : Client} {task : Option StreamTask} {refresher : Refresher}

theorem of_host (h : client.Runs number task refresher) {next : Client}
    (hnext : ∃ changed : Refresher, changed.SameStream client.refresher ∧
      next.supervisor = { client.supervisor with refresher := changed }) :
    next.Runs number task refresher := by
  obtain ⟨changed, hsame, hnext⟩ := hnext
  have hrefresher : next.refresher = changed := congrArg Supervisor.refresher hnext
  exact ⟨hnext ▸ h.lookup, hnext ▸ h.spared, hrefresher ▸ hsame.trans h.same⟩

/-- A signal has the effect on the task that it has without anything else. -/
theorem resume (h : client.Runs number task refresher) (signal : StreamSignal) :
    let (next, activities) := client.step (.move (.resume number signal))
    let ran := StreamTask.run task refresher [signal]
    next.Runs number ran.result ran.refresher ∧ activities = ran.activities := by
  dsimp only [Client.step, Supervisor.step, Supervisor.resumed]
  rw [h.lookup]
  cases task with
  | none => exact ⟨h, rfl⟩
  | some task =>
      have hspared : client.supervisor.aborted.contains number = false := by
        simpa using h.spared
      have halike : (task.resume client.supervisor.refresher signal).Alike
          (task.resume refresher signal) := task.resume_congr h.same signal
      obtain ⟨hresult, hrefresher, hactivities⟩ := halike
      simp only [hspared, Bool.false_eq_true, if_false, StreamTask.run, List.append_nil, ← hresult]
      cases (task.resume client.supervisor.refresher signal).result with
      | some next =>
          exact ⟨⟨client.supervisor.lookup_setTask number h.lookup next, h.spared, hrefresher⟩,
            hactivities⟩
      | none =>
          exact ⟨⟨client.supervisor.lookup_withoutTask number, h.spared, hrefresher⟩,
            hactivities⟩

/-- An action that spares a task is for the task its signal, if it has one. -/
theorem step (h : client.Runs number task refresher) {action : ClientAction}
    (hspares : action.Spares number) :
    let ran := StreamTask.run task refresher (action.signal? number).toList
    (client.step action).1.Runs number ran.result ran.refresher ∧
      ((action.signal? number).isSome → (client.step action).2 = ran.activities) := by
  cases hspares with
  | beginFetch | endFetch | loadCached | updateContext =>
      exact ⟨h.of_host (client.sameStream_step _ nofun), nofun⟩
  | callStart =>
      refine ⟨?_, nofun⟩
      dsimp only [Client.step, Supervisor.step]
      split <;> exact ⟨h.lookup, h.spared, h.same⟩
  | callShutdown => exact ⟨⟨h.lookup, h.spared, h.same⟩, nofun⟩
  | reap other =>
      refine ⟨?_, nofun⟩
      dsimp only [Client.step, Supervisor.step]
      split
      · rename_i hreaped
        -- Only a task that has been aborted goes away.
        have hne : number ≠ other := by
          rintro rfl
          exact h.spared (by simpa using hreaped)
        exact ⟨(client.supervisor.lookup_withoutTask_of_ne number hne).trans h.lookup, h.spared,
          h.same⟩
      · exact h
  | resume signal =>
      simp only [ClientAction.signal?, if_true, Option.toList_some]
      exact ⟨(h.resume signal).1, fun _ => (h.resume signal).2⟩

/-- In the course of actions that spare it, a task does what it does with its signals alone. -/
theorem after (h : client.Runs number task refresher) {actions : List ClientAction}
    (hspares : ∀ action ∈ actions, action.Spares number) :
    let ran := StreamTask.run task refresher (actions.filterMap (·.signal? number))
    (client.after actions).Runs number ran.result ran.refresher ∧
      client.activitiesOf number actions = ran.activities := by
  induction actions generalizing client task refresher with
  | nil => exact ⟨by cases task <;> exact h, by cases task <;> rfl⟩
  | cons action rest ih =>
      obtain ⟨hstep, hdone⟩ := h.step (hspares action List.mem_cons_self)
      obtain ⟨hlast, hlater⟩ :=
        ih hstep fun later hmem => hspares later (List.mem_cons_of_mem _ hmem)
      have hsignals : (action :: rest).filterMap (·.signal? number) =
          (action.signal? number).toList ++ rest.filterMap (·.signal? number) := by
        rw [List.filterMap_cons]
        cases action.signal? number <;> rfl
      rw [hsignals, StreamTask.run_append]
      refine ⟨hlast, ?_⟩
      -- What an action does counts if it is a signal to the task; the task does it then.
      simp only [activitiesOf, hlater]
      congr 1
      cases hsignal : action.signal? number with
      | none => cases task <;> rfl
      | some signal =>
          rw [hsignal] at hdone
          exact hdone rfl

end Runs

/-- **A stream is retried within its budget.**  Once a task has been spawned, whatever happens next
to it that spares it, it makes its attempts one after the other, the last of which may be at any
stage, and reports what it receives; it pauses after each failure that is within the limit on
failures in a row, and these pauses grow up to the greatest delay; and it gives up for the first
failure that is fatal or beyond the limit, which stops the connection and is the last that is heard
of it. -/
theorem retries_within_budget {client : Client} {number : Nat} {url : String}
    (hspawned : client.supervisor.HasSpawned number url) {actions : List ClientAction}
    (hspares : ∀ action ∈ actions, action.Spares number) {attempts : List StreamAttempt}
    {stage : StreamStage}
    (hscript : actions.filterMap (·.signal? number) =
      attempts.flatMap StreamAttempt.signals ++ stage.signals) :
    let limits := client.refresher.backoff
    let lastError? := StreamAttempt.lastError? limits 0 attempts
    client.activitiesOf number actions =
        StreamAttempt.trace limits url client.refresher.reportOf? stage 0 attempts ∧
      (client.after actions).supervisor.isAlive number = lastError?.isNone ∧
      (client.after actions).refresher.connection.state =
        (if lastError?.isSome then .stopped else .active) ∧
      ∀ earlier later, earlier ≤ later → later ≤ limits.maxRetries.toNat →
        limits.pauseAfter earlier ≤ limits.pauseAfter later ∧
          limits.pauseAfter later ≤ limits.maxDelay := by
  intro limits lastError?
  have hruns : client.Runs number (some { url }) client.refresher :=
    ⟨hspawned.lookup, hspawned.spared, .refl client.refresher⟩
  have hcounting : client.refresher.Counting limits client.refresher.reportOf? 0 :=
    ⟨hspawned.active, (limits.withFailures_zero hspawned.new).symm, rfl⟩
  have hdue : ({ url } : StreamTask).IsDue := Or.inl rfl
  obtain ⟨hlast, hactivities⟩ := hruns.after hspares
  obtain ⟨htrace, hresult, hstate⟩ :=
    StreamTask.run_attempts hdue hcounting (Nat.zero_le _) attempts stage
  rw [hscript] at hlast hactivities
  refine ⟨hactivities.trans htrace, ?_, ?_, fun _ _ => Backoff.pauseAfter_mono⟩
  · rw [Supervisor.isAlive, hlast.lookup, ← Option.not_isNone, hresult, Option.not_isSome]
  · exact (congrArg (·.state) hlast.same.connection).trans hstate

/-- One retry, while the host fetches and asks for another stream. The stream brings an event of an
unknown name and one that cannot be decoded, and is closed; that is the first failure, and the
stream that is refused next is beyond the limit, so that a third attempt is not made. -/
theorem retries_spent_after_close :
    let start : Supervisor :=
      { refresher := .ofConfig ⟨{ apiKey := "k", hostUrl := "http://[::1]" }⟩ { maxRetries := 1 } }
    let waiting := (start.run [.callStart, .acquire 0]).1
    let client : Client := { supervisor := (waiting.step (.finish 0)).1 }
    let url := "http://[::1]/sub/k"
    let bytes : Text.Utf8.Bytes :=
      [101, 118, 101, 110, 116, 58, 112, 10, 100, 97, 116, 97, 58, 120, 10, 10,
        100, 97, 116, 97, 58, 120, 10, 10]
    let actions : List ClientAction :=
      [.move (.resume 1 .resumed), .beginFetch, .move (.resume 1 (.accepted 0)),
        .move (.resume 1 (.chunk bytes)), .move .callStart, .move (.resume 1 .closed), .loadCached,
        .move (.resume 1 .resumed), .move (.resume 1 (.failed (.unexpectedStatus 503))),
        .move (.resume 1 .resumed), .move (.resume 1 (.failed .unauthorized))]
    let attempts : List StreamAttempt :=
      [.accepted 0 [bytes] none, .refused (.unexpectedStatus 503), .refused .unauthorized]
    client.supervisor.HasSpawned 1 url ∧
      (∀ action ∈ actions, action.Spares 1) ∧
      actions.filterMap (·.signal? 1) =
        attempts.flatMap StreamAttempt.signals ++ StreamStage.waiting.signals ∧
      client.activitiesOf 1 actions =
        [.opened url, .reported (.error .decode) true, .pausing 1000000000, .opened url,
          .reported (.error (.retriesExhausted 1)) true] ∧
      (client.after actions).supervisor.isAlive 1 = false ∧
      (client.after actions).refresher.connection.state = .stopped := by
  intro start waiting client url bytes actions attempts
  -- the call spawns the task under the next free number, which is one
  have hspawned : client.supervisor.HasSpawned 1 url := by
    have hnumber : waiting.nextNumber = 1 := by decide +kernel
    have hcall : waiting.calls.lookup 0 = some (.replacing url none) := by decide +kernel
    have hlock : waiting.lockHolder = some 0 := by decide +kernel
    have hnumbered : waiting.Numbered := (Supervisor.numbered_start start.refresher).run _
    have hfinished := hnumbered.hasSpawned_finish hcall hlock rfl
    rwa [hnumber] at hfinished
  have hspares : ∀ action ∈ actions, action.Spares 1 := by
    simp only [actions, List.forall_mem_cons, List.not_mem_nil, false_imp_iff, implies_true,
      and_true]
    exact ⟨.resume _, .beginFetch, .resume _, .resume _, .callStart, .resume _, .loadCached,
      .resume _, .resume _, .resume _, .resume _⟩
  have hscript : actions.filterMap (·.signal? 1) =
      attempts.flatMap StreamAttempt.signals ++ StreamStage.waiting.signals := rfl
  have hlimits : client.refresher.backoff = { maxRetries := 1 } := by decide +kernel
  -- the stream brings two events, and the one with a name is passed over
  have hevents : StreamAttempt.events (.accepted 0 [bytes] none) =
      [⟨some "p", "x"⟩, ⟨none, "x"⟩] := by decide +kernel
  have hbody : client.refresher.definitionsOf (Text.Utf8.encode "x".toList) = .error .decode := by
    have hdraft : Json.Draft.ofBytes? (Text.Utf8.encode "x".toList) = none :=
      Option.isNone_iff_eq_none.mp (by decide +kernel)
    rw [Refresher.definitionsOf, Payload.ofBytes, Payload.decodeBytes, hdraft]
    rfl
  have hnamed : client.refresher.reportOf? ⟨some "p", "x"⟩ = none := if_neg (by decide)
  have hplain : client.refresher.reportOf? ⟨none, "x"⟩ =
      some (.reported (.error .decode) true) := by
    rw [Refresher.reportOf?, hbody]
    rfl
  obtain ⟨hactivities, halive, hstate, -⟩ := retries_within_budget hspawned hspares hscript
  rw [hlimits] at hactivities halive hstate
  refine ⟨hspawned, hspares, hscript, hactivities.trans ?_, halive, hstate⟩
  simp only [attempts, StreamAttempt.trace, hevents, List.filterMap_cons, hnamed, hplain]
  rfl

end Client

end FeatureFlags

import FeatureFlags.Proofs.Refresher.Moves
import FeatureFlags.Proofs.Refresher.Retries

/-!
# Stopping is final

Once the connection is stopped, the only thing that starts it again is a call for a stream
that holds the lock and has nothing left to wait for (`Supervisor.Starts`).  Until then
the connection stays stopped and no task opens a stream, whatever else happens in whatever
order: a step of a task on a stopped connection is quiet (`Progress.IsQuiet`), so is every
other move, and what the host does besides has no bearing on streams
(`Client.step_cases`).

A task that is left over can go at once.  Which signals a task can get depends on what it
waits for, on the connection and, behind a failure, on the time that has passed
(`StreamPhase.CanTake`): a stopped connection can be noticed in every wait without any
time, and a pause that is over leads to the same end.  Either way the task ends and does
nothing more (`Client.stopping_is_final`).
-/

namespace FeatureFlags

/-! ## Waits -/

/-- A signal that can end a wait now, some nanoseconds after the wait began. What comes from the
server may come at any time, a pause ends when it is over, and everyone who waits notices that the
connection is stopped. -/
inductive StreamPhase.CanTake (connection : Connection) (waited : Nat) :
    StreamPhase → StreamSignal → Prop
  | run : CanTake connection waited .starting .resumed
  | accepted (stream : Nat) : CanTake connection waited .opening (.accepted stream)
  | refused (error : Error) : CanTake connection waited .opening (.failed error)
  | chunk {stream : Nat} {decoder : EventDecoder} (bytes : Text.Utf8.Bytes) :
      CanTake connection waited (.reading stream decoder) (.chunk bytes)
  | closed {stream : Nat} {decoder : EventDecoder} :
      CanTake connection waited (.reading stream decoder) .closed
  | broken {stream : Nat} {decoder : EventDecoder} (error : Error) :
      CanTake connection waited (.reading stream decoder) (.failed error)
  | woken {delay : Nat} (hover : delay ≤ waited) :
      CanTake connection waited (.pausing delay) .resumed
  | stopped {phase : StreamPhase} (hstopped : connection.state = .stopped) :
      CanTake connection waited phase .stopped

/-! ## Quiet steps -/

/-- A step after which the connection is stopped and in which no stream is opened. -/
structure Progress.IsQuiet {α : Type} (step : Progress α) : Prop where
  stopped : step.refresher.connection.state = .stopped
  unopened : ∀ url, .opened url ∉ step.activities

namespace Refresher

section Host

variable (refresher : Refresher)

theorem unopened_apply (body : Text.Utf8.Bytes) (isRemote : Bool) (url : String) :
    .opened url ∉ (refresher.apply body isRemote).activities := by
  unfold apply
  split <;> simp

theorem unopened_endRefresh (page : Url) (answer : Except Error Response) (url : String) :
    .opened url ∉ (refresher.endRefresh page answer).activities := by
  unfold endRefresh
  split
  · dsimp only
    split <;> exact refresher.unopened_apply _ true url
  · exact List.not_mem_nil
  · simp

theorem unopened_loadCached (url : String) : .opened url ∉ refresher.loadCached.activities := by
  unfold loadCached
  split
  · exact List.not_mem_nil
  · exact refresher.unopened_apply _ false url

end Host

theorem isQuiet_receiveAll {refresher : Refresher}
    (hstopped : refresher.connection.state = .stopped) (events : List StreamEvent) :
    (refresher.receiveAll events).IsQuiet where
  stopped := by
    obtain ⟨contexts, persistence, hreceived⟩ := refresher.receiveAll_frame events
    rw [hreceived]
    exact hstopped
  unopened := fun url hopened => by
    rw [activities_receiveAll] at hopened
    obtain ⟨event, -, hreport⟩ := List.mem_filterMap.mp hopened
    unfold reportOf? at hreport
    split at hreport <;> cases hreport

end Refresher

namespace StreamTask

/-- The failure with which a signal ends an attempt to read the stream, if it does. -/
def failure? (task : StreamTask) : StreamSignal → Option Error
  | .failed error =>
    match task.phase with
    | .opening => some error
    | .reading _ _ => some error
    | _ => none
  | .closed =>
    match task.phase with
    | .reading _ _ => some .streamClosed
    | _ => none
  | _ => none

theorem isQuiet_giveUp (refresher : Refresher) (error : Error) :
    (giveUp refresher error).IsQuiet where
  stopped := Connection.state_turn ..
  unopened := fun url => by simp [giveUp]

/-- A failure that is fatal, or for which no retry is left, stops the connection. -/
theorem isQuiet_fail_of_last (task : StreamTask) {refresher : Refresher} {error : Error}
    (hlast : error.isFatal = true ∨ refresher.backoff.shouldRetry = false) :
    (task.fail refresher error).IsQuiet := by
  unfold fail
  split
  · exact isQuiet_giveUp refresher error
  · rename_i hfatal
    have hspent : refresher.backoff.shouldRetry = false := hlast.resolve_left hfatal
    rw [retry, hspent]
    exact isQuiet_giveUp refresher _

theorem state_resume_of_last (task : StreamTask) {refresher : Refresher} {signal : StreamSignal}
    {error : Error} (hfailure : task.failure? signal = some error)
    (hlast : error.isFatal = true ∨ refresher.backoff.shouldRetry = false) :
    (task.resume refresher signal).refresher.connection.state = .stopped := by
  obtain ⟨url, phase⟩ := task
  cases signal with
  | failed failure =>
      cases phase with
      | opening =>
          cases hfailure
          exact (isQuiet_fail_of_last _ hlast).stopped
      | reading stream decoder =>
          cases hfailure
          exact (isQuiet_fail_of_last _ hlast).stopped
      | _ => cases hfailure
  | closed =>
      cases phase with
      | reading stream decoder =>
          cases hfailure
          -- The event at the end of the stream does not touch the retries.
          obtain ⟨contexts, persistence, hreceived⟩ :=
            refresher.receiveAll_frame decoder.finish.1.toList
          have hlast' : Error.streamClosed.isFatal = true ∨
              (refresher.receiveAll decoder.finish.1.toList).refresher.backoff.shouldRetry =
                false := by
            rw [hreceived]
            exact hlast
          exact (isQuiet_fail_of_last _ hlast').stopped
      | _ => cases hfailure
  | _ => cases hfailure

section Stopped

variable {refresher : Refresher} (hstopped : refresher.connection.state = .stopped)
include hstopped

theorem begin_of_stopped (task : StreamTask) : task.begin refresher = ⟨none, refresher, []⟩ := by
  have hinactive : refresher.connection.isActive = false := by
    rw [Connection.isActive, hstopped]
    rfl
  rw [begin, hinactive]
  rfl

theorem isQuiet_fail (task : StreamTask) (error : Error) : (task.fail refresher error).IsQuiet := by
  unfold fail
  split
  · exact isQuiet_giveUp refresher error
  · unfold retry
    split
    · exact ⟨hstopped, fun url => by simp⟩
    · exact isQuiet_giveUp refresher _

theorem isQuiet_receivingFirst (events : List StreamEvent) {continuation : Refresher → Step}
    (hcontinuation : ∀ received : Refresher, received.connection.state = .stopped →
      (continuation received).IsQuiet) :
    (receivingFirst refresher events continuation).IsQuiet := by
  have hreceived := Refresher.isQuiet_receiveAll hstopped events
  have hnext := hcontinuation _ hreceived.stopped
  refine ⟨hnext.stopped, fun url hopened => ?_⟩
  exact (List.mem_append.mp hopened).elim (hreceived.unopened url) (hnext.unopened url)

/-- **On a stopped connection every step of a task is quiet.** -/
theorem isQuiet_resume (task : StreamTask) (signal : StreamSignal) :
    (task.resume refresher signal).IsQuiet := by
  have hidle (result : Option StreamTask) : (⟨result, refresher, []⟩ : Step).IsQuiet :=
    ⟨hstopped, fun _ => List.not_mem_nil⟩
  unfold resume
  split
  · exact hidle none
  · rw [begin_of_stopped hstopped]
    exact hidle none
  · rw [begin_of_stopped hstopped]
    exact hidle none
  · exact ⟨hstopped, fun _ => List.not_mem_nil⟩
  · exact isQuiet_fail hstopped task _
  · exact isQuiet_fail hstopped task _
  · exact isQuiet_receivingFirst hstopped _ fun _ hreceived =>
      ⟨hreceived, fun _ => List.not_mem_nil⟩
  · exact isQuiet_receivingFirst hstopped _ fun _ hreceived => isQuiet_fail hreceived task _
  · exact hidle (some task)

/-- A task that notices that the connection is stopped ends, and so does one that is due. -/
theorem resume_of_stopped (task : StreamTask) {waited : Nat} {signal : StreamSignal}
    (htake : task.phase.CanTake refresher.connection waited signal)
    (hends : signal = .stopped ∨ task.IsDue) :
    task.resume refresher signal = ⟨none, refresher, []⟩ := by
  obtain ⟨url, phase⟩ := task
  rcases hends with rfl | rfl | ⟨delay, rfl⟩
  · rfl
  · cases htake with
    | run => exact begin_of_stopped hstopped _
    | stopped => rfl
  · cases htake with
    | woken => exact begin_of_stopped hstopped _
    | stopped => rfl

end Stopped

end StreamTask

/-! ## Moves -/

namespace Supervisor

/-- A move that stops the connection: the host stops it, a call that shuts down gets the lock, or a
task fails for the last time. -/
inductive Stops (supervisor : Supervisor) : Move → Prop
  | stop : Stops supervisor .stop
  | shutdown {call : Nat} (hfree : supervisor.lockHolder = none)
      (hcall : supervisor.calls.lookup call = some .stopping) : Stops supervisor (.acquire call)
  | failure {number : Nat} {signal : StreamSignal} {task : StreamTask} {error : Error}
      (hrunning : supervisor.IsRunning number task) (hfailure : task.failure? signal = some error)
      (hlast : error.isFatal = true ∨ supervisor.refresher.backoff.shouldRetry = false) :
      Stops supervisor (.resume number signal)

/-- A move that starts the connection: a call for a stream holds the lock and finds the task before
it gone. -/
inductive Starts (supervisor : Supervisor) : Move → Prop
  | finish {call : Nat} {url : String} {previous : Option Nat}
      (hlock : supervisor.lockHolder = some call)
      (hcall : supervisor.calls.lookup call = some (.replacing url previous))
      (hgone : previous.any supervisor.isAlive = false) : Starts supervisor (.finish call)

variable {supervisor : Supervisor}

theorem state_of_stops {move : Move} (hstops : supervisor.Stops move) :
    (supervisor.step move).1.refresher.connection.state = .stopped := by
  cases hstops with
  | stop => exact Connection.state_turn ..
  | shutdown hfree hcall =>
      dsimp only [step]
      rw [hfree, hcall]
      exact Connection.state_turn ..
  | failure hrunning hfailure hlast =>
      have hstopped := StreamTask.state_resume_of_last _ hfailure hlast
      rw [step, supervisor.resumed_of_isRunning hrunning]
      dsimp only
      cases (StreamTask.resume _ supervisor.refresher _).result <;> exact hstopped

/-- **A move on a stopped connection is quiet unless it starts the connection.** -/
theorem quiet_of_stopped (hstopped : supervisor.refresher.connection.state = .stopped) {move : Move}
    (hstarts : ¬supervisor.Starts move) :
    (supervisor.step move).1.refresher.connection.state = .stopped ∧
      ∀ url, .opened url ∉ (supervisor.step move).2 := by
  have hstep := supervisor.stepped move
  generalize (supervisor.step move).1 = next, (supervisor.step move).2 = activities at hstep
  cases hstep with
  | spawned hlock hcall hgone => exact absurd (.finish hlock hcall hgone) hstarts
  | @continued _ signal task =>
      have hquiet := StreamTask.isQuiet_resume hstopped task signal
      exact ⟨hquiet.stopped, hquiet.unopened⟩
  | @ended _ signal task =>
      have hquiet := StreamTask.isQuiet_resume hstopped task signal
      exact ⟨hquiet.stopped, hquiet.unopened⟩
  | stopped | joining => exact ⟨Connection.state_turn .., fun _ => List.not_mem_nil⟩
  | _ => exact ⟨hstopped, fun _ => List.not_mem_nil⟩

end Supervisor

/-! ## Clients -/

namespace Client

/-- What is done in the course of some actions. -/
def activities (client : Client) : List ClientAction → List Activity
  | [] => []
  | action :: rest => (client.step action).2 ++ (client.step action).1.activities rest

/-- None of some actions is a move that meets a condition when it is made. -/
def Avoids (condition : Supervisor → Move → Prop) : Client → List ClientAction → Prop
  | _, [] => True
  | client, action :: rest =>
    (∀ move, action = .move move → ¬condition client.supervisor move) ∧
      (client.step action).1.Avoids condition rest

theorem avoids_of_forall {condition : Supervisor → Move → Prop} {client : Client}
    {actions : List ClientAction}
    (hnever : ∀ supervisor move, condition supervisor move → .move move ∉ actions) :
    client.Avoids condition actions := by
  induction actions generalizing client with
  | nil => trivial
  | cons action rest ih =>
      refine ⟨?_, ih fun supervisor move hmeets hlater =>
        hnever supervisor move hmeets (List.mem_cons_of_mem _ hlater)⟩
      rintro move rfl hmeets
      exact hnever _ move hmeets List.mem_cons_self

/-- The client without a task that has ended. -/
def withoutTask (client : Client) (number : Nat) : Client :=
  { client with supervisor := client.supervisor.withoutTask number }

theorem unopened_step (client : Client) (action : ClientAction)
    (hhost : ∀ move, action ≠ .move move) (url : String) :
    .opened url ∉ (client.step action).2 := by
  cases action with
  | move move => exact absurd rfl (hhost move)
  | beginFetch =>
      dsimp only [step, beginFetch, Refresher.beginRefresh]
      cases client.refresher.contexts.current.featuresUrl <;> simp
  | endFetch request answer =>
      dsimp only [step, endFetch]
      cases client.requests.lookup request with
      | none => exact List.not_mem_nil
      | some page => exact client.refresher.unopened_endRefresh page answer url
  | loadCached => exact client.refresher.unopened_loadCached url
  | updateContext change => exact List.not_mem_nil

/-- An action is a move, or it opens no stream and makes no difference to one. -/
theorem step_cases (client : Client) (action : ClientAction) :
    (∃ move, action = .move move) ∨
      (∃ refresher : Refresher, refresher.SameStream client.refresher ∧
        (client.step action).1.supervisor = { client.supervisor with refresher }) ∧
      ∀ url, .opened url ∉ (client.step action).2 := by
  cases action with
  | move move => exact Or.inl ⟨move, rfl⟩
  | _ => exact Or.inr ⟨client.sameStream_step _ nofun, client.unopened_step _ nofun⟩

section Stopped

variable {client : Client} (hstopped : client.refresher.connection.state = .stopped)
include hstopped

/-- An action on a stopped connection is quiet unless it starts the connection. -/
theorem quiet_step {action : ClientAction}
    (hstarts : ∀ move, action = .move move → ¬client.supervisor.Starts move) :
    (client.step action).1.refresher.connection.state = .stopped ∧
      ∀ url, .opened url ∉ (client.step action).2 := by
  obtain ⟨move, rfl⟩ | ⟨⟨refresher, hsame, hnext⟩, hunopened⟩ := client.step_cases action
  · exact Supervisor.quiet_of_stopped hstopped (hstarts move rfl)
  · refine ⟨?_, hunopened⟩
    have hrefresher : (client.step action).1.refresher = refresher :=
      congrArg Supervisor.refresher hnext
    rw [hrefresher, hsame.connection]
    exact hstopped

/-- **Until it is started again, a connection stays stopped and no stream is opened.** -/
theorem quiet_after {actions : List ClientAction}
    (hnone : client.Avoids Supervisor.Starts actions) :
    (client.after actions).refresher.connection.state = .stopped ∧
      ∀ url, .opened url ∉ client.activities actions := by
  induction actions generalizing client with
  | nil => exact ⟨hstopped, fun _ => List.not_mem_nil⟩
  | cons action rest ih =>
      obtain ⟨hnow, hlater⟩ := hnone
      obtain ⟨hnext, hfirst⟩ := quiet_step hstopped hnow
      obtain ⟨hlast, hrest⟩ := ih hnext hlater
      refine ⟨hlast, fun url hopened => ?_⟩
      exact (List.mem_append.mp hopened).elim (hfirst url) (hrest url)

/-- A task that notices that the connection is stopped, or is due on a stopped connection, goes
away, and nothing else happens. -/
theorem step_of_leaving {number : Nat} {task : StreamTask}
    (hrunning : client.supervisor.IsRunning number task) {waited : Nat} {signal : StreamSignal}
    (htake : task.phase.CanTake client.refresher.connection waited signal)
    (hends : signal = .stopped ∨ task.IsDue) :
    client.step (.move (.resume number signal)) = (client.withoutTask number, []) := by
  have hresume := StreamTask.resume_of_stopped hstopped task htake hends
  have hstep := client.supervisor.resumed_of_isRunning hrunning signal
  dsimp only at hstep
  rw [show task.resume client.supervisor.refresher signal = ⟨none, client.refresher, []⟩ from
    hresume] at hstep
  dsimp only [step, Supervisor.step]
  rw [hstep]
  rfl

end Stopped

/-- **Stopping is final.**  The host stops the connection, and so does a shutdown that gets the lock
and a task that fails for good.  From then on and until it is started again the connection stays
stopped and no stream is opened, whatever happens in whatever order.  All the while every task can
notice this at once, whatever it waits for and however short it has been waiting; and a task that
notices it, or whose pause is over, goes away without doing or changing anything else. -/
theorem stopping_is_final (client : Client) :
    (∀ move, client.supervisor.Stops move →
      (client.step (.move move)).1.refresher.connection.state = .stopped) ∧
    (client.refresher.connection.state = .stopped →
      ∀ actions, client.Avoids Supervisor.Starts actions →
        let now := client.after actions
        now.refresher.connection.state = .stopped ∧
        (∀ url, .opened url ∉ client.activities actions) ∧
        ∀ number task, now.supervisor.IsRunning number task → ∀ waited,
          task.phase.CanTake now.refresher.connection waited .stopped ∧
          ∀ signal, task.phase.CanTake now.refresher.connection waited signal →
            signal = .stopped ∨ task.IsDue →
            now.step (.move (.resume number signal)) = (now.withoutTask number, [])) := by
  refine ⟨fun move hstops => Supervisor.state_of_stops hstops, ?_⟩
  intro hstopped actions hnone now
  obtain ⟨hnow, hunopened⟩ := quiet_after hstopped hnone
  refine ⟨hnow, hunopened, fun number task hrunning waited => ⟨.stopped hnow, fun signal => ?_⟩⟩
  exact step_of_leaving hnow hrunning

/-- A stream is stopped while its task pauses, and a fetch, a shutdown and a call for another stream
come next. The task is still in its pause, which it can leave without any delay; the end of the
pause would lead to the same. -/
theorem pause_left_at_stop :
    let start : Client :=
      { supervisor := { refresher := .ofConfig ⟨{ apiKey := "k", hostUrl := "http://[::1]" }⟩ {} } }
    let pausing := start.after
      [.move .callStart, .move (.acquire 0), .move (.finish 0), .move (.resume 1 .resumed),
        .move (.resume 1 (.failed .streamClosed))]
    let stopped := (pausing.step (.move .stop)).1
    let task : StreamTask := ⟨"http://[::1]/sub/k", .pausing 1000000000⟩
    let actions : List ClientAction :=
      [.beginFetch, .move .callShutdown, .move .callStart, .move (.acquire 2)]
    pausing.supervisor.Stops .stop ∧ pausing.refresher.connection.state = .active ∧
      stopped.refresher.connection.state = .stopped ∧
      stopped.Avoids Supervisor.Starts actions ∧
      (stopped.after actions).refresher.connection.state = .stopped ∧
      (∀ url, .opened url ∉ stopped.activities actions) ∧
      (stopped.after actions).supervisor.IsRunning 1 task ∧
      task.phase.CanTake (stopped.after actions).refresher.connection 0 .stopped ∧
      (stopped.after actions).step (.move (.resume 1 .stopped)) =
        ((stopped.after actions).withoutTask 1, []) ∧
      task.phase.CanTake (stopped.after actions).refresher.connection 1000000000 .resumed ∧
      (stopped.after actions).step (.move (.resume 1 .resumed)) =
        ((stopped.after actions).withoutTask 1, []) := by
  intro start pausing stopped task actions
  have hactive : pausing.refresher.connection.state = .active := by decide +kernel
  have hstopped : stopped.refresher.connection.state = .stopped :=
    (stopping_is_final pausing).1 .stop .stop
  -- none of the later actions gets as far as starting a connection
  have hnone : stopped.Avoids Supervisor.Starts actions :=
    avoids_of_forall fun supervisor move hstarts => by cases hstarts; simp [actions]
  have hrunning : (stopped.after actions).supervisor.IsRunning 1 task :=
    ⟨by decide +kernel, by decide +kernel⟩
  obtain ⟨hnow, hunopened, hleaves⟩ := (stopping_is_final stopped).2 hstopped actions hnone
  obtain ⟨htake, hleft⟩ := hleaves 1 task hrunning 0
  obtain ⟨-, hleft'⟩ := hleaves 1 task hrunning 1000000000
  have hover : task.phase.CanTake (stopped.after actions).refresher.connection 1000000000
      .resumed := .woken (Nat.le_refl _)
  exact ⟨.stop, hactive, hstopped, hnone, hnow, hunopened, hrunning,
    htake, hleft .stopped htake (Or.inl rfl),
    hover, hleft' .resumed hover (Or.inr (Or.inr ⟨_, rfl⟩))⟩

end Client

end FeatureFlags

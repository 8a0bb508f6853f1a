import FeatureFlags.Proofs.Refresher.Outcome

/-!
# What a stream does to a refresher

A move of a stream makes the refresher receive events: those that a chunk completes, and
the one that is left when the stream is closed (`Supervisor.events`).  Apart from that it
changes nothing but the state of the stream itself, which is the connection and the
backoff (`Supervisor.content_step`).
-/

namespace FeatureFlags

/-- The refresher as it is without a stream. -/
def Refresher.content (refresher : Refresher) : Refresher :=
  { refresher with connection := {}, backoff := {} }

namespace StreamTask

/-- The events that a task receives with a signal. -/
def events (task : StreamTask) : StreamSignal → List StreamEvent
  | .chunk bytes =>
    match task.phase with
    | .reading _ decoder => (decoder.push bytes).1
    | _ => []
  | .closed =>
    match task.phase with
    | .reading _ decoder => decoder.finish.1.toList
    | _ => []
  | _ => []

variable (task : StreamTask) (refresher : Refresher)

theorem content_retry : (task.retry refresher).refresher.content = refresher.content := by
  unfold retry
  split <;> rfl

theorem content_fail (error : Error) :
    (task.fail refresher error).refresher.content = refresher.content := by
  unfold fail
  split
  · rfl
  · exact task.content_retry refresher

theorem content_begin : (task.begin refresher).refresher.content = refresher.content := by
  unfold begin
  split <;> rfl

/-- With a signal a task receives its events and nothing else. -/
theorem content_resume (signal : StreamSignal) :
    (task.resume refresher signal).refresher.content =
      (refresher.receiveAll (task.events signal)).refresher.content := by
  obtain ⟨url, phase⟩ := task
  cases signal with
  | stopped => rfl
  -- beginning and failing bring no content, only what is read from the stream does
  | resumed =>
      cases phase with
      | starting => exact content_begin _ refresher
      | pausing delay => exact content_begin _ refresher
      | _ => rfl
  | accepted stream => cases phase <;> rfl
  | failed error =>
      cases phase with
      | opening => exact content_fail _ refresher error
      | reading stream decoder => exact content_fail _ refresher error
      | _ => rfl
  | chunk bytes => cases phase <;> rfl
  | closed =>
      cases phase with
      | reading stream decoder => exact content_fail _ _ .streamClosed
      | _ => rfl

end StreamTask

namespace Supervisor

/-- The events that the refresher receives in a move. -/
def events (supervisor : Supervisor) : Move → List StreamEvent
  | .resume number signal =>
    match supervisor.tasks.lookup number with
    | some task => if supervisor.aborted.contains number then [] else task.events signal
    | none => []
  | _ => []

variable (supervisor : Supervisor)

theorem events_of_isRunning {number : Nat} {task : StreamTask}
    (hrunning : supervisor.IsRunning number task) (signal : StreamSignal) :
    supervisor.events (.resume number signal) = task.events signal := by
  have hspared : supervisor.aborted.contains number = false := by simpa using hrunning.spared
  simp only [events, hrunning.lookup, hspared, Bool.false_eq_true, if_false]

/-- A move that gives no signal to a running task brings no events. -/
theorem events_of_idle {move : Move}
    (hidle : ∀ number signal, move = .resume number signal →
      ∀ task, ¬supervisor.IsRunning number task) : supervisor.events move = [] := by
  unfold events
  split
  · rename_i number signal
    split
    · rename_i task hlookup
      split
      · rfl
      · rename_i hspared
        have hrunning : supervisor.IsRunning number task := ⟨hlookup, by simpa using hspared⟩
        exact absurd hrunning (hidle number signal rfl task)
    · rfl
  · rfl

/-- **In a move the refresher receives the events of the move, and nothing else happens to it but
in the state of its stream.** -/
theorem content_step (move : Move) :
    (supervisor.step move).1.refresher.content =
      (supervisor.refresher.receiveAll (supervisor.events move)).refresher.content := by
  have hstep := supervisor.stepped move
  generalize (supervisor.step move).1 = next, (supervisor.step move).2 = activities at hstep ⊢
  cases hstep with
  | unchanged hidle =>
      rw [supervisor.events_of_idle hidle]
      rfl
  | @continued _ signal task _ hrunning =>
      rw [supervisor.events_of_isRunning hrunning]
      exact task.content_resume supervisor.refresher signal
  | @ended _ signal task hrunning =>
      rw [supervisor.events_of_isRunning hrunning]
      exact task.content_resume supervisor.refresher signal
  | _ => rfl

end Supervisor

end FeatureFlags

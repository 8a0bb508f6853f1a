import FeatureFlags.Refresher

/-!
# Stream tasks

A stream task opens the event stream at a URL, applies what it receives, and opens the stream again
after a pause when it fails.  Between two steps it waits: for the stream to open, for the next
chunk, or for a pause to end.  Each step begins with a signal that ends such a wait, and while it
waits a task can always notice that the connection has been stopped, which ends it.

A fatal failure and a failure for which no retry is left stop the connection and are reported.
-/

namespace FeatureFlags

/-- What a stream task waits for. -/
inductive StreamPhase
  /-- To run for the first time. -/
  | starting
  | opening
  /-- The next chunk of an open stream. -/
  | reading (stream : Nat) (decoder : EventDecoder)
  /-- The end of a pause, which takes this many nanoseconds. -/
  | pausing (delay : Nat)
deriving DecidableEq, Repr

structure StreamTask where
  url : String
  phase : StreamPhase := .starting
deriving DecidableEq, Repr

/-- What ends a wait of a stream task. -/
inductive StreamSignal
  /-- The task runs for the first time, or its pause is over. -/
  | resumed
  /-- The server accepted the stream, under a number. -/
  | accepted (stream : Nat)
  /-- The stream could not be opened, or broke. -/
  | failed (error : Error)
  | chunk (bytes : Text.Utf8.Bytes)
  /-- The server closed the stream. -/
  | closed
  /-- The connection has been stopped. -/
  | stopped
deriving DecidableEq, Repr

namespace StreamTask

/-- A step of a task results in the task that goes on, or in none if it has ended. -/
abbrev Step := Progress (Option StreamTask)

/-- Stops the connection for good and reports why. -/
def giveUp (refresher : Refresher) (error : Error) : Step :=
  ⟨none, { refresher with connection := refresher.connection.stop.2 },
    [.reported (.error error) true]⟩

/-- Goes on after a failure that is not fatal: pauses, or gives up if no retry is left. -/
def retry (task : StreamTask) (refresher : Refresher) : Step :=
  if refresher.backoff.shouldRetry then
    let delay := refresher.backoff.nextDelay
    ⟨some { task with phase := .pausing delay },
      { refresher with backoff := refresher.backoff.recordFailure.2 }, [.pausing delay]⟩
  else giveUp refresher (.retriesExhausted refresher.backoff.attempt.toNat)

def fail (task : StreamTask) (refresher : Refresher) (error : Error) : Step :=
  if error.isFatal then giveUp refresher error else task.retry refresher

/-- Opens the stream while the connection is active. -/
def begin (task : StreamTask) (refresher : Refresher) : Step :=
  if refresher.connection.isActive then
    ⟨some { task with phase := .opening }, refresher, [.opened task.url]⟩
  else ⟨none, refresher, []⟩

/-- Receives events and then does something else. -/
def receivingFirst (refresher : Refresher) (events : List StreamEvent)
    (continuation : Refresher → Step) : Step :=
  let received := refresher.receiveAll events
  let next := continuation received.refresher
  { next with activities := received.activities ++ next.activities }

/-- Takes a signal. A task ignores a signal that it does not wait for. -/
def resume (task : StreamTask) (refresher : Refresher) (signal : StreamSignal) : Step :=
  match signal, task.phase with
  | .stopped, _ => ⟨none, refresher, []⟩
  | .resumed, .starting => task.begin refresher
  | .resumed, .pausing _ => task.begin refresher
  | .accepted stream, .opening =>
    ⟨some { task with phase := .reading stream {} },
      { refresher with backoff := refresher.backoff.reset }, []⟩
  | .failed error, .opening => task.fail refresher error
  | .failed error, .reading _ _ => task.fail refresher error
  | .chunk bytes, .reading stream decoder =>
    let (events, next) := decoder.push bytes
    receivingFirst refresher events fun refresher =>
      ⟨some { task with phase := .reading stream next }, refresher, []⟩
  | .closed, .reading _ decoder =>
    receivingFirst refresher decoder.finish.1.toList fun refresher =>
      task.fail refresher .streamClosed
  | _, _ => ⟨some task, refresher, []⟩

end StreamTask

end FeatureFlags

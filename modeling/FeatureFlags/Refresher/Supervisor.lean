import FeatureFlags.Refresher.Task

/-!
# Starting and stopping streams

The host starts and shuts down streams by calls that may be pending at the same time, next to the
stream tasks that are alive.  A supervisor advances by single moves, each of which is what one of
them does between two waits; any order of moves is possible.

A call first waits for the restart lock, which one call holds at a time.  To start a stream it then
aborts the task that was started last, waits until that task is gone, and spawns a new one.  To
shut down it stops the connection and waits until the task has ended on its own.  A task that has
been aborted takes no further step.
-/

namespace FeatureFlags

/-- A pending call of the host. -/
inductive StreamCall
  /-- Wants to start a stream at a URL and waits for the lock. -/
  | starting (url : String)
  /-- Holds the lock and waits until the task before the new stream is gone. -/
  | replacing (url : String) (previous : Option Nat)
  /-- Wants to shut down and waits for the lock. -/
  | stopping
  /-- Holds the lock and waits until the stopped task is gone. -/
  | joining (task : Option Nat)
deriving DecidableEq, Repr

/-- A refresher with its tasks and calls, each under a number of its own. -/
structure Supervisor where
  refresher : Refresher
  /-- The tasks that are alive. -/
  tasks : List (Nat × StreamTask) := []
  /-- The tasks that have been aborted. -/
  aborted : List Nat := []
  /-- The task that was started last, until a call takes charge of it. -/
  current : Option Nat := none
  calls : List (Nat × StreamCall) := []
  /-- The call that holds the restart lock. -/
  lockHolder : Option Nat := none
  /-- The number of the next task or call. -/
  nextNumber : Nat := 0

/-- What can happen next. -/
inductive Move
  | callStart
  | callShutdown
  /-- Stops the connection without waiting. -/
  | stop
  /-- A call gets the lock. -/
  | acquire (call : Nat)
  /-- A call that holds the lock finds the task gone it waited for, and returns. -/
  | finish (call : Nat)
  /-- An aborted task goes away. -/
  | reap (task : Nat)
  | resume (task : Nat) (signal : StreamSignal)

namespace Supervisor

def isAlive (supervisor : Supervisor) (task : Nat) : Bool := (supervisor.tasks.lookup task).isSome

/-- Whether the task started last is alive. -/
def isStreaming (supervisor : Supervisor) : Bool := supervisor.current.any supervisor.isAlive

def withoutTask (supervisor : Supervisor) (task : Nat) : Supervisor :=
  { supervisor with tasks := supervisor.tasks.filter (·.1 ≠ task) }

def setTask (supervisor : Supervisor) (number : Nat) (task : StreamTask) : Supervisor :=
  { supervisor with
    tasks := supervisor.tasks.map fun entry => if entry.1 = number then (number, task) else entry }

def setCall (supervisor : Supervisor) (number : Nat) (call : StreamCall) : Supervisor :=
  { supervisor with
    calls := supervisor.calls.map fun entry => if entry.1 = number then (number, call) else entry }

def stopConnection (supervisor : Supervisor) : Supervisor :=
  { supervisor with
    refresher :=
      { supervisor.refresher with connection := supervisor.refresher.connection.stop.2 } }

/-- Adds a pending call. -/
def addCall (supervisor : Supervisor) (call : StreamCall) : Supervisor :=
  { supervisor with
    calls := supervisor.calls ++ [(supervisor.nextNumber, call)]
    nextNumber := supervisor.nextNumber + 1 }

/-- A call that has got the lock takes charge of the task that was started last. -/
def acquired (supervisor : Supervisor) (number : Nat) : StreamCall → Supervisor
  | .starting url =>
    { supervisor with
      lockHolder := some number
      current := none
      aborted := supervisor.current.toList ++ supervisor.aborted
      : Supervisor }.setCall number (.replacing url supervisor.current)
  | .stopping =>
    ({ supervisor with lockHolder := some number, current := none : Supervisor }.setCall number
      (.joining supervisor.current)).stopConnection
  | _ => supervisor

/-- Releases the lock when a call returns. -/
def release (supervisor : Supervisor) (number : Nat) : Supervisor :=
  { supervisor with calls := supervisor.calls.filter (·.1 ≠ number), lockHolder := none }

/-- Spawns a task for a stream on an active connection without failures. -/
def spawn (supervisor : Supervisor) (url : String) : Supervisor :=
  { supervisor with
    refresher :=
      { supervisor.refresher with
        connection := supervisor.refresher.connection.start.2
        backoff := supervisor.refresher.backoff.reset }
    tasks := supervisor.tasks ++ [(supervisor.nextNumber, { url })]
    current := some supervisor.nextNumber
    nextNumber := supervisor.nextNumber + 1 }

/-- Lets a call return that holds the lock and has nothing left to wait for. -/
def finished (supervisor : Supervisor) (number : Nat) : StreamCall → Supervisor
  | .replacing url previous =>
    if previous.any supervisor.isAlive then supervisor else (supervisor.spawn url).release number
  | .joining task => if task.any supervisor.isAlive then supervisor else supervisor.release number
  | _ => supervisor

/-- Lets a task take a signal unless it has been aborted. -/
def resumed (supervisor : Supervisor) (number : Nat) (signal : StreamSignal) :
    Supervisor × List Activity :=
  match supervisor.tasks.lookup number with
  | none => (supervisor, [])
  | some task =>
    if supervisor.aborted.contains number then (supervisor, [])
    else
      let step := task.resume supervisor.refresher signal
      let next := { supervisor with refresher := step.refresher }
      match step.result with
      | some task => (next.setTask number task, step.activities)
      | none => (next.withoutTask number, step.activities)

/-- The supervisor after a move, and the activities of the move. A move that is not possible changes
nothing. -/
def step (supervisor : Supervisor) : Move → Supervisor × List Activity
  | .callStart =>
    match supervisor.refresher.contexts.current.streamUrl with
    | .ok url => (supervisor.addCall (.starting url.text), [])
    | .error _ => (supervisor, [])
  | .callShutdown => (supervisor.addCall .stopping, [])
  | .stop => (supervisor.stopConnection, [])
  | .acquire number =>
    match supervisor.lockHolder, supervisor.calls.lookup number with
    | none, some call => (supervisor.acquired number call, [])
    | _, _ => (supervisor, [])
  | .finish number =>
    match supervisor.calls.lookup number with
    | some call =>
      (if supervisor.lockHolder = some number then supervisor.finished number call
        else supervisor, [])
    | none => (supervisor, [])
  | .reap number =>
    (if supervisor.aborted.contains number then supervisor.withoutTask number else supervisor, [])
  | .resume number signal => supervisor.resumed number signal

/-- Makes moves in order. -/
def run (supervisor : Supervisor) : List Move → Supervisor × List Activity
  | [] => (supervisor, [])
  | move :: rest =>
    let (next, activities) := supervisor.step move
    let (last, later) := run next rest
    (last, activities ++ later)

end Supervisor

end FeatureFlags

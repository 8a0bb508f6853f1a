import FeatureFlags.Refresher.Supervisor

/-!
# Sessions in virtual time

A session plays a refresher against a server whose answers are laid down in advance.  Time stands
still except where the session is told to let it pass; between two steps of the host, whatever can
happen without time passing does happen.  Time is counted in milliseconds, and a pause that ends
within a millisecond lasts until its end.
-/

namespace FeatureFlags

/-- How an attempt to open a stream ends. -/
inductive Opening
  | accept
  | reject (error : Error)
  /-- The attempt is never answered. -/
  | hang
deriving DecidableEq, Repr

structure Session where
  supervisor : Supervisor
  /-- Milliseconds since the start. -/
  now : Nat := 0
  /-- The answers to the next requests. -/
  responses : List (Except Error Response) := []
  /-- The ends of the next attempts to open a stream. -/
  openings : List Opening := []
  /-- How the attempt under way ends. -/
  attempt : Opening := .hang
  /-- When the pause under way ends. -/
  deadline : Nat := 0
  /-- The number of streams that the server has accepted. -/
  accepted : Nat := 0
  /-- Whether the host still has the refresher. -/
  isHeld : Bool := true
  /-- The activities so far and their times. -/
  log : List (Nat × Activity) := []

namespace Session

/-- The answer of a server that has none laid down. -/
def refusal : Error := .transport "connection refused"

/-- The milliseconds until a pause is over. -/
def milliseconds (nanoseconds : Nat) : Nat := (nanoseconds + 999999) / 1000000

/-- Notes an activity. Opening a stream uses up an answer of the server, and a pause sets the time
of its end. -/
def note (session : Session) (activity : Activity) : Session :=
  let logged := { session with log := session.log ++ [(session.now, activity)] }
  match activity with
  | .opened _ =>
    { logged with
      attempt := session.openings.head?.getD (.reject refusal), openings := session.openings.tail }
  | .pausing delay => { logged with deadline := session.now + milliseconds delay }
  | _ => logged

def noteAll (session : Session) (activities : List Activity) : Session :=
  activities.foldl note session

/-- Makes a move. -/
def move (session : Session) (move : Move) : Session :=
  let (supervisor, activities) := session.supervisor.step move
  { session with supervisor }.noteAll activities

/-! ## What happens by itself -/

/-- The signal that a task can get without time passing, if there is one. -/
def signalFor? (session : Session) (task : StreamTask) : Option StreamSignal :=
  if !session.supervisor.refresher.connection.isActive then some .stopped
  else
    match task.phase with
    | .starting => some .resumed
    | .opening =>
      match session.attempt with
      | .accept => some (.accepted session.accepted)
      | .reject error => some (.failed error)
      | .hang => none
    | .reading _ _ => none
    | .pausing _ => if session.deadline ≤ session.now then some .resumed else none

/-- Gives a signal to a task. -/
def deliver (session : Session) (task : Nat) (signal : StreamSignal) : Session :=
  let next := session.move (.resume task signal)
  match signal with
  | .accepted _ => { next with accepted := session.accepted + 1 }
  | _ => next

/-- Lets everything happen that can happen without time passing, up to a number of signals. -/
def settleWithin : Nat → Session → Session
  | 0, session => session
  | fuel + 1, session =>
    match session.supervisor.tasks with
    | [] => session
    | (number, task) :: _ =>
      match session.signalFor? task with
      | none => session
      | some signal => settleWithin fuel (session.deliver number signal)

/-- The number of attempts to open a stream after which a task is out of retries or waits. -/
def attemptBound (session : Session) : Nat :=
  session.supervisor.refresher.backoff.maxRetries.toNat + 2

/-- Lets everything happen that can happen without time passing: at each attempt a task gets at
most three signals. -/
def settle (session : Session) : Session := settleWithin (3 * session.attemptBound) session

/-- When the pause of a task is over. -/
def wakeTime? (session : Session) : Option Nat :=
  match session.supervisor.tasks with
  | (_, { phase := .pausing _, .. }) :: _ => some session.deadline
  | _ => none

/-- Lets time pass from one end of a pause to the next, up to a number of pauses. -/
def passUntil (target : Nat) : Nat → Session → Session
  | 0, session => session
  | fuel + 1, session =>
    match session.wakeTime? with
    | none => session
    | some time =>
      if time ≤ target then passUntil target fuel { session with now := time }.settle else session

/-- Lets a number of milliseconds pass. -/
def wait (session : Session) (duration : Nat) : Session :=
  let target := session.now + duration
  { passUntil target session.attemptBound session with now := target }.settle

/-! ## What the host does -/

/-- Takes over the state and the activities of something the refresher did. -/
def absorb (session : Session) {α : Type} (progress : Progress α) : α × Session :=
  (progress.result,
    { session with
      supervisor := { session.supervisor with refresher := progress.refresher } }.noteAll
        progress.activities)

/-- Fetches features once. -/
def refresh (session : Session) : Except Error Unit × Session :=
  let (begun, session) := session.absorb session.supervisor.refresher.beginRefresh
  match begun with
  | .error error => (.error error, session)
  | .ok (url, _) =>
    let answer := session.responses.head?.getD (.error refusal)
    let session := { session with responses := session.responses.tail }
    session.absorb (session.supervisor.refresher.endRefresh url answer)

def loadCached (session : Session) : Except Error Bool × Session :=
  session.absorb session.supervisor.refresher.loadCached

/-- Waits for a call of the host to return. -/
def returning (session : Session) (call : Nat) : Session :=
  let holding := session.move (.acquire call)
  let reaped :=
    holding.supervisor.aborted.foldl (fun session task => session.move (.reap task)) holding
  (reaped.settle.move (.finish call)).settle

/-- Starts a stream and waits until it has been started. -/
def start (session : Session) : Except Error Unit × Session :=
  match session.supervisor.refresher.contexts.current.streamUrl with
  | .error error => (.error error, session)
  | .ok _ =>
    let call := session.supervisor.nextNumber
    (.ok (), (session.move .callStart).returning call)

def stop (session : Session) : Session := (session.move .stop).settle

/-- Stops the stream and waits until its task has ended. -/
def shutdown (session : Session) : Session :=
  let call := session.supervisor.nextNumber
  (session.move .callShutdown).returning call

/-- Gives the refresher up, which stops the stream. -/
def drop (session : Session) : Session := { session.stop with isHeld := false }

/-- Whether the stream task is running, if the host can still tell. -/
def isStreaming? (session : Session) : Option Bool :=
  if session.isHeld then some session.supervisor.isStreaming else none

/-- Publishes a changed context. -/
def updateContext (session : Session) (change : Context → Context) : Session :=
  let refresher := session.supervisor.refresher
  { session with
    supervisor :=
      { session.supervisor with
        refresher := { refresher with contexts := refresher.contexts.update change } } }

/-! ## What the server does -/

/-- The task that reads a stream. -/
def readerOf? (session : Session) (stream : Nat) : Option Nat :=
  (session.supervisor.tasks.find? fun entry =>
    match entry.2.phase with
    | .reading reading _ => reading = stream
    | _ => false).map (·.1)

/-- Sends something on a stream and tells whether there is still a reader; without such a stream
there is no answer. -/
def send (session : Session) (stream : Option Nat) (signal : StreamSignal) :
    Option Bool × Session :=
  let number := stream.getD (session.accepted - 1)
  if session.accepted ≤ number then (none, session)
  else
    match session.readerOf? number with
    | some task => (some true, (session.deliver task signal).settle)
    | none => (some false, session)

end Session

end FeatureFlags

import FeatureFlags.Proofs.Refresher.Stopping

/-!
# One stream at a time

The restart lock makes sure that at most one task is alive, although several calls may be
pending at once.  Whoever has the right to start a stream or has taken it away answers for
the one task that may be alive (`Supervisor.Answers`): while the lock is free that is the
slot of the task started last, and otherwise the call that holds the lock, which has
emptied the slot and waits until its task is gone.  No other task is alive
(`Supervisor.Governed`), and every move keeps it that way.  A new task is spawned only
when the one before it is gone, and so a call that starts a stream leaves exactly its own
task behind.

Numbers are never given out twice, so that a task that has gone stays gone
(`Supervisor.HasGone`).  And once a shutdown has returned there is nothing left to wait
for: nobody is alive and the connection is stopped until the next call for a stream gets
the lock (`Supervisor.AtRest`).
-/

namespace FeatureFlags

/-! ## Calls -/

/-- The URL of the stream that a call is to start; a call that shuts down has none. -/
def StreamCall.url? : StreamCall → Option String
  | .starting url => some url
  | .replacing url _ => some url
  | .stopping => none
  | .joining _ => none

namespace Supervisor

section Calls

variable (supervisor : Supervisor) {number : Nat} {call : StreamCall}

theorem lookup_addCall (hcall : supervisor.calls.lookup number = some call) (new : StreamCall) :
    (supervisor.addCall new).calls.lookup number = some call := by
  rw [addCall, List.lookup_append, hcall]
  rfl

theorem lookup_setCall (hcall : supervisor.calls.lookup number = some call) (next : StreamCall) :
    (supervisor.setCall number next).calls.lookup number = some next := by
  rw [setCall, lookup_replace, if_pos rfl, hcall]
  rfl

/-- Neither does a call go away when another one changes. -/
theorem lookup_setCall_ne_none (hcall : supervisor.calls.lookup number = some call) (other : Nat)
    (next : StreamCall) : (supervisor.setCall other next).calls.lookup number ≠ none := by
  rw [setCall, lookup_replace]
  by_cases hother : number = other
  · rw [if_pos hother, ← hother, hcall]
    exact nofun
  · rw [if_neg hother, hcall]
    exact nofun

theorem lookup_release_of_ne {other : Nat} (hne : number ≠ other) :
    (supervisor.release other).calls.lookup number = supervisor.calls.lookup number := by
  rw [release, lookup_remove, if_neg hne]

end Calls

/-- **A call returns in one of two ways.**  A call for a stream has spawned its task, and a shutdown
has found its task gone. -/
theorem Stepped.returned {supervisor next : Supervisor} {move : Move} {activities : List Activity}
    (hstep : supervisor.Stepped move next activities) {number : Nat} {call : StreamCall}
    (hcall : supervisor.calls.lookup number = some call)
    (hreturned : next.calls.lookup number = none) :
    supervisor.lockHolder = some number ∧
      ((∃ url previous, call = .replacing url previous ∧ previous.any supervisor.isAlive = false ∧
          next = (supervisor.spawn url).release number) ∨
        ∃ task, call = .joining task ∧ task.any supervisor.isAlive = false ∧
          next = supervisor.release number) := by
  have hpending : supervisor.calls.lookup number ≠ none := by
    rw [hcall]
    exact nofun
  cases hstep with
  | asked | dismissed =>
      rw [supervisor.lookup_addCall hcall] at hreturned
      cases hreturned
  | replacing | joining =>
      exact absurd hreturned (lookup_setCall_ne_none _ hcall _ _)
  -- only a call that holds the lock returns, and the two ways of returning are kept apart
  | @spawned other url previous hlock hholder hgone =>
      by_cases hother : number = other
      · subst hother
        cases hcall.symm.trans hholder
        exact ⟨hlock, Or.inl ⟨url, previous, rfl, hgone, rfl⟩⟩
      · rw [lookup_release_of_ne _ hother] at hreturned
        exact absurd hreturned hpending
  | @joined other task hlock hholder hgone =>
      by_cases hother : number = other
      · subst hother
        cases hcall.symm.trans hholder
        exact ⟨hlock, Or.inr ⟨task, rfl, hgone, rfl⟩⟩
      · rw [lookup_release_of_ne _ hother] at hreturned
        exact absurd hreturned hpending
  | _ => exact absurd hreturned hpending

/-! ## The task that may be alive -/

/-- Somebody answers for a task, if there is one: the slot of the task started last while the lock
is free, and otherwise the call that holds the lock. A call that shuts down has stopped the
connection. -/
inductive Answers (supervisor : Supervisor) : Option Nat → Prop
  | slot (hfree : supervisor.lockHolder = none) : Answers supervisor supervisor.current
  | restart {call : Nat} {url : String} {previous : Option Nat}
      (hlock : supervisor.lockHolder = some call)
      (hcall : supervisor.calls.lookup call = some (.replacing url previous))
      (hslot : supervisor.current = none) : Answers supervisor previous
  | shutdown {call : Nat} {task : Option Nat} (hlock : supervisor.lockHolder = some call)
      (hcall : supervisor.calls.lookup call = some (.joining task))
      (hslot : supervisor.current = none)
      (hstopped : supervisor.refresher.connection.state = .stopped) : Answers supervisor task

/-- At most one task is alive, and it is the one that somebody answers for. -/
structure Governed (supervisor : Supervisor) (incumbent : Option Nat) : Prop where
  numbered : supervisor.Numbered
  answers : supervisor.Answers incumbent
  alive : ∀ entry ∈ supervisor.tasks, incumbent = some entry.1
  single : supervisor.tasks.length ≤ 1

namespace Answers

variable {supervisor : Supervisor} {incumbent : Option Nat}

theorem congr (h : supervisor.Answers incumbent) {next : Supervisor}
    (hlock : next.lockHolder = supervisor.lockHolder) (hslot : next.current = supervisor.current)
    (hcalls : ∀ number call, supervisor.calls.lookup number = some call →
      next.calls.lookup number = some call)
    (hstays : supervisor.refresher.connection.state = .stopped →
      next.refresher.connection.state = .stopped) : next.Answers incumbent := by
  cases h with
  | slot hfree => exact hslot ▸ .slot (hlock.trans hfree)
  | restart hheld hcall hempty =>
      exact .restart (hlock.trans hheld) (hcalls _ _ hcall) (hslot.trans hempty)
  | shutdown hheld hcall hempty hstopped =>
      exact .shutdown (hlock.trans hheld) (hcalls _ _ hcall) (hslot.trans hempty) (hstays hstopped)

theorem eq_of_free (h : supervisor.Answers incumbent) (hfree : supervisor.lockHolder = none) :
    incumbent = supervisor.current := by
  cases h with
  | slot => rfl
  | restart hlock | shutdown hlock => cases hfree.symm.trans hlock

theorem addCall (h : supervisor.Answers incumbent) (call : StreamCall) :
    (supervisor.addCall call).Answers incumbent :=
  h.congr rfl rfl (fun _ _ hcall => supervisor.lookup_addCall hcall call) id

/-- What a task does leaves the calls alone and does not start the connection. -/
theorem resume (h : supervisor.Answers incumbent) (task : StreamTask) (signal : StreamSignal) :
    ({ supervisor with
        refresher := (task.resume supervisor.refresher signal).refresher :
        Supervisor }).Answers incumbent :=
  h.congr rfl rfl (fun _ _ => id) fun hstopped =>
    (StreamTask.isQuiet_resume hstopped task signal).stopped

theorem setTask (h : supervisor.Answers incumbent) (number : Nat) (task : StreamTask) :
    (supervisor.setTask number task).Answers incumbent := h.congr rfl rfl (fun _ _ => id) id

theorem withoutTask (h : supervisor.Answers incumbent) (number : Nat) :
    (supervisor.withoutTask number).Answers incumbent := h.congr rfl rfl (fun _ _ => id) id

section Locked

variable {number : Nat} (hlock : supervisor.lockHolder = some number)
include hlock

theorem eq_of_restart (h : supervisor.Answers incumbent) {url : String} {previous : Option Nat}
    (hcall : supervisor.calls.lookup number = some (.replacing url previous)) :
    incumbent = previous := by
  cases h with
  | slot hfree => cases hfree.symm.trans hlock
  | restart hlock' hcall' =>
      cases hlock.symm.trans hlock'
      cases hcall.symm.trans hcall'
      rfl
  | shutdown hlock' hcall' =>
      cases hlock.symm.trans hlock'
      cases hcall.symm.trans hcall'

theorem eq_of_shutdown (h : supervisor.Answers incumbent) {task : Option Nat}
    (hcall : supervisor.calls.lookup number = some (.joining task)) :
    incumbent = task ∧ supervisor.refresher.connection.state = .stopped := by
  cases h with
  | slot hfree => cases hfree.symm.trans hlock
  | restart hlock' hcall' =>
      cases hlock.symm.trans hlock'
      cases hcall.symm.trans hcall'
  | shutdown hlock' hcall' _ hstopped =>
      cases hlock.symm.trans hlock'
      cases hcall.symm.trans hcall'
      exact ⟨rfl, hstopped⟩

end Locked

end Answers

section Acquired

variable {supervisor : Supervisor} {call : Nat}

/-- A call for a stream that gets the lock answers for the task that was started last. -/
theorem answers_replacing {url : String}
    (hcall : supervisor.calls.lookup call = some (.starting url)) :
    (supervisor.acquired call (.starting url)).Answers supervisor.current := by
  have hheld : (supervisor.acquired call (.starting url)).calls.lookup call =
      some (.replacing url supervisor.current) := lookup_setCall _ hcall _
  exact .restart rfl hheld rfl

theorem lookup_joining (hcall : supervisor.calls.lookup call = some .stopping) :
    (supervisor.acquired call .stopping).calls.lookup call = some (.joining supervisor.current) :=
  lookup_setCall _ hcall _

/-- So does a call that shuts down, which stops the connection. -/
theorem answers_joining (hcall : supervisor.calls.lookup call = some .stopping) :
    (supervisor.acquired call .stopping).Answers supervisor.current :=
  .shutdown rfl (lookup_joining hcall) rfl (Connection.state_turn ..)

end Acquired

namespace Governed

variable {supervisor : Supervisor} {incumbent : Option Nat}

/-- A task that somebody has found gone was the only one. -/
theorem tasks_eq_nil (h : supervisor.Governed incumbent)
    (hgone : incumbent.any supervisor.isAlive = false) : supervisor.tasks = [] := by
  rw [List.eq_nil_iff_forall_not_mem]
  intro entry hentry
  have hdead : supervisor.isAlive entry.1 = false := by
    rw [h.alive entry hentry] at hgone
    exact hgone
  rw [isAlive, Option.isSome_eq_false_iff, Option.isNone_iff_eq_none,
    List.lookup_eq_none_iff] at hdead
  simpa using hdead entry hentry

/-- A call that has just spawned a task has left no other one. -/
theorem tasks_of_restart (h : supervisor.Governed incumbent) {call : Nat} {url : String}
    {previous : Option Nat} (hlock : supervisor.lockHolder = some call)
    (hcall : supervisor.calls.lookup call = some (.replacing url previous))
    (hgone : previous.any supervisor.isAlive = false) :
    (supervisor.spawn url).tasks = [(supervisor.nextNumber, { url })] := by
  cases h.answers.eq_of_restart hlock hcall
  rw [spawn, h.tasks_eq_nil hgone]
  rfl

/-- The same task, or none, is alive, and somebody still answers for it. -/
theorem of_tasks (h : supervisor.Governed incumbent) {next : Supervisor} (hnumbered : next.Numbered)
    (hanswers : next.Answers incumbent)
    (htasks : ∀ entry ∈ next.tasks, ∃ other ∈ supervisor.tasks, other.1 = entry.1)
    (hlength : next.tasks.length ≤ supervisor.tasks.length) : next.Governed incumbent where
  numbered := hnumbered
  answers := hanswers
  alive := fun entry hentry => by
    obtain ⟨other, hother, hsame⟩ := htasks entry hentry
    exact hsame ▸ h.alive other hother
  single := hlength.trans h.single

/-- **Every move leaves at most one task alive, with somebody to answer for it.** -/
theorem step (h : supervisor.Governed incumbent) (move : Move) :
    ∃ successor, (supervisor.step move).1.Governed successor := by
  have hsame (entry) (hentry : entry ∈ supervisor.tasks) :
      ∃ other ∈ supervisor.tasks, other.1 = entry.1 := ⟨entry, hentry, rfl⟩
  -- a task that remains was there before, so it is still the one that is answered for
  have hremaining (number : Nat) (entry) (hentry : entry ∈ (supervisor.withoutTask number).tasks) :
      ∃ other ∈ supervisor.tasks, other.1 = entry.1 := hsame entry (List.mem_of_mem_filter hentry)
  have hnumbered := h.numbered.step move
  have hstep := supervisor.stepped move
  generalize (supervisor.step move).1 = next, (supervisor.step move).2 = activities
    at hstep hnumbered
  cases hstep with
  | unchanged => exact ⟨incumbent, h⟩
  | asked | dismissed =>
      exact ⟨incumbent, h.of_tasks hnumbered (h.answers.addCall _) hsame (Nat.le_refl _)⟩
  | stopped =>
      have hanswers : supervisor.stopConnection.Answers incumbent :=
        h.answers.congr rfl rfl (fun _ _ => id) fun _ => Connection.state_turn ..
      exact ⟨incumbent, h.of_tasks hnumbered hanswers hsame (Nat.le_refl _)⟩
  | replacing hfree hcall =>
      -- The slot is emptied, and the call answers for the task that was in it.
      cases h.answers.eq_of_free hfree
      exact ⟨_, h.of_tasks hnumbered (answers_replacing hcall) hsame (Nat.le_refl _)⟩
  | joining hfree hcall =>
      cases h.answers.eq_of_free hfree
      exact ⟨_, h.of_tasks hnumbered (answers_joining hcall) hsame (Nat.le_refl _)⟩
  -- the restart waited for the old task, and the new one is alone
  | @spawned call url previous hlock hcall hgone =>
      have htasks : ((supervisor.spawn url).release call).tasks =
          [(supervisor.nextNumber, { url })] := h.tasks_of_restart hlock hcall hgone
      refine ⟨some supervisor.nextNumber, hnumbered, .slot rfl, fun entry hentry => ?_, ?_⟩
      · rw [htasks, List.mem_singleton] at hentry
        rw [hentry]
      · rw [htasks]
        exact Nat.le_refl 1
  | @joined call task hlock hcall hgone =>
      obtain ⟨rfl, -⟩ := h.answers.eq_of_shutdown hlock hcall
      have htasks : (supervisor.release call).tasks = [] := h.tasks_eq_nil hgone
      refine ⟨supervisor.current, hnumbered, .slot rfl, fun entry hentry => ?_, ?_⟩
      · rw [htasks] at hentry
        cases hentry
      · rw [htasks]
        exact Nat.zero_le 1
  | @reaped number =>
      exact ⟨incumbent, h.of_tasks hnumbered (h.answers.withoutTask number) (hremaining number)
        (List.length_filter_le ..)⟩
  | @continued number signal task next =>
      exact ⟨incumbent, h.of_tasks hnumbered ((h.answers.resume task signal).setTask number next)
        (fun _ => exists_of_mem_setTask) (Nat.le_of_eq (List.length_map ..))⟩
  | @ended number signal task =>
      exact ⟨incumbent, h.of_tasks hnumbered ((h.answers.resume task signal).withoutTask number)
        (hremaining number) (List.length_filter_le ..)⟩

end Governed

/-! ## Tasks that have gone -/

/-- A number has been given out, and its task is not alive any more. -/
structure HasGone (supervisor : Supervisor) (number : Nat) : Prop where
  used : number < supervisor.nextNumber
  gone : supervisor.tasks.lookup number = none

namespace HasGone

variable {supervisor : Supervisor} {number : Nat}

/-- **A task that has gone does not come back.** -/
theorem step (h : supervisor.HasGone number) (move : Move) :
    (supervisor.step move).1.HasGone number := by
  have hstep := supervisor.stepped move
  generalize (supervisor.step move).1 = next, (supervisor.step move).2 = activities at hstep
  have hless (other : Nat) : (supervisor.withoutTask other).tasks.lookup number = none := by
    rw [withoutTask, lookup_remove, h.gone, ite_self]
  cases hstep with
  | unchanged | stopped | replacing | joining | joined => exact ⟨h.used, h.gone⟩
  | asked | dismissed => exact ⟨Nat.lt_succ_of_lt h.used, h.gone⟩
  | @spawned _ url =>
      -- a new task gets a number that was never used, so not this one
      refine ⟨Nat.lt_succ_of_lt h.used, ?_⟩
      dsimp only [release, spawn]
      rw [List.lookup_append, h.gone, List.lookup_cons, beq_false_of_ne (Nat.ne_of_lt h.used)]
      rfl
  | reaped | ended => exact ⟨h.used, hless _⟩
  | @continued other signal task next =>
      refine ⟨h.used, ?_⟩
      dsimp only [setTask]
      rw [lookup_replace]
      by_cases hother : number = other
      · rw [if_pos hother, ← hother, h.gone]
        rfl
      · rw [if_neg hother, h.gone]

end HasGone

/-- A task that was spawned before a call for a stream returns has gone when it does. -/
theorem Governed.hasGone {supervisor : Supervisor} {incumbent : Option Nat}
    (h : supervisor.Governed incumbent) {call old : Nat} {url : String} {previous : Option Nat}
    (hlock : supervisor.lockHolder = some call)
    (hcall : supervisor.calls.lookup call = some (.replacing url previous))
    (hgone : previous.any supervisor.isAlive = false) (hused : old < supervisor.nextNumber) :
    ((supervisor.spawn url).release call).HasGone old where
  used := Nat.lt_succ_of_lt hused
  gone := by
    rw [release, h.tasks_of_restart hlock hcall hgone, List.lookup_cons,
      beq_false_of_ne (Nat.ne_of_lt hused)]
    rfl

theorem nextNumber_step (supervisor : Supervisor) (move : Move) :
    supervisor.nextNumber ≤ (supervisor.step move).1.nextNumber := by
  have hstep := supervisor.stepped move
  generalize (supervisor.step move).1 = next, (supervisor.step move).2 = activities at hstep
  cases hstep with
  | asked | dismissed | spawned => exact Nat.le_succ _
  | _ => exact Nat.le_refl _

/-! ## Rest -/

/-- A move by which a call for a stream gets the lock. -/
inductive Restarts (supervisor : Supervisor) : Move → Prop
  | acquire {call : Nat} {url : String} (hfree : supervisor.lockHolder = none)
      (hcall : supervisor.calls.lookup call = some (.starting url)) :
      Restarts supervisor (.acquire call)

/-- No task is alive, the connection is stopped, and the lock is not held to start a stream. -/
structure AtRest (supervisor : Supervisor) : Prop where
  tasks : supervisor.tasks = []
  stopped : supervisor.refresher.connection.state = .stopped
  unclaimed : ∀ call url previous, supervisor.lockHolder = some call →
    supervisor.calls.lookup call ≠ some (.replacing url previous)

variable {supervisor : Supervisor}

/-- **A shutdown that returns leaves everything at rest.** -/
theorem Governed.atRest {incumbent : Option Nat} (h : supervisor.Governed incumbent) {call : Nat}
    {task : Option Nat} (hlock : supervisor.lockHolder = some call)
    (hcall : supervisor.calls.lookup call = some (.joining task))
    (hgone : task.any supervisor.isAlive = false) : (supervisor.release call).AtRest := by
  obtain ⟨rfl, hstopped⟩ := h.answers.eq_of_shutdown hlock hcall
  exact ⟨h.tasks_eq_nil hgone, hstopped, nofun⟩

namespace AtRest

theorem addCall (h : supervisor.AtRest) {new : StreamCall}
    (hnew : ∀ url previous, new ≠ .replacing url previous) : (supervisor.addCall new).AtRest where
  tasks := h.tasks
  stopped := h.stopped
  unclaimed := fun call url previous hlock hcall => by
    dsimp only [Supervisor.addCall] at hcall
    rw [List.lookup_append, Option.or_eq_some_iff] at hcall
    rcases hcall with hold | ⟨-, hcall⟩
    · exact h.unclaimed call url previous hlock hold
    · rw [List.lookup_cons] at hcall
      split at hcall
      · exact hnew url previous (Option.some.inj hcall)
      · cases hcall

/-- **Everything stays at rest until a call for a stream gets the lock.** -/
theorem step (h : supervisor.AtRest) {move : Move} (hrestarts : ¬supervisor.Restarts move) :
    (supervisor.step move).1.AtRest := by
  have hidle {number : Nat} {task : StreamTask} (hrunning : supervisor.IsRunning number task) :
      False := by
    have hlookup := hrunning.lookup
    rw [h.tasks] at hlookup
    cases hlookup
  have hstep := supervisor.stepped move
  generalize (supervisor.step move).1 = next, (supervisor.step move).2 = activities at hstep
  cases hstep with
  | unchanged => exact h
  | asked | dismissed => exact h.addCall nofun
  | stopped => exact ⟨h.tasks, Connection.state_turn .., h.unclaimed⟩
  | replacing hfree hcall => exact absurd (.acquire hfree hcall) hrestarts
  | @joining call hfree hcall =>
      refine ⟨h.tasks, Connection.state_turn .., fun other url previous hlock hother => ?_⟩
      -- the call that takes the lock is a shutdown, which starts nothing
      cases hlock
      cases (lookup_joining hcall).symm.trans hother
  | spawned hlock hcall => exact absurd hcall (h.unclaimed _ _ _ hlock)
  | joined => exact ⟨h.tasks, h.stopped, nofun⟩
  | reaped =>
      refine ⟨?_, h.stopped, h.unclaimed⟩
      dsimp only [withoutTask]
      rw [h.tasks]
      rfl
  | continued hrunning | ended hrunning => exact (hidle hrunning).elim

end AtRest

end Supervisor

/-! ## Clients -/

namespace Client

theorem after_append (client : Client) (actions more : List ClientAction) :
    client.after (actions ++ more) = (client.after actions).after more := by
  induction actions generalizing client with
  | nil => rfl
  | cons action rest ih => exact ih (client.step action).1

section Keeping

variable {condition : Supervisor → Move → Prop} {motive : Supervisor → Prop}
  (hmove : ∀ {supervisor : Supervisor} {move : Move}, ¬condition supervisor move →
    motive supervisor → motive (supervisor.step move).1)
  (hhost : ∀ {supervisor : Supervisor} {refresher : Refresher},
    refresher.SameStream supervisor.refresher → motive supervisor →
      motive { supervisor with refresher })
include hmove hhost

/-- What is kept by the moves that do not meet a condition, and by whatever no stream can tell, is
kept by the actions that avoid the condition. -/
theorem keeps_after {client : Client} {actions : List ClientAction}
    (hnone : client.Avoids condition actions) (h : motive client.supervisor) :
    motive (client.after actions).supervisor := by
  induction actions generalizing client with
  | nil => exact h
  | cons action rest ih =>
      obtain ⟨hnow, hlater⟩ := hnone
      refine ih hlater ?_
      obtain ⟨move, rfl⟩ | ⟨⟨refresher, hsame, hnext⟩, -⟩ := client.step_cases action
      · exact hmove (hnow move rfl) h
      · rw [hnext]
        exact hhost hsame h

end Keeping

/-- The client that some actions lead to from a refresher that nobody has used yet. -/
def reached (refresher : Refresher) (actions : List ClientAction) : Client :=
  ({ supervisor := { refresher } } : Client).after actions

theorem reached_append (refresher : Refresher) (actions more : List ClientAction) :
    reached refresher (actions ++ more) = (reached refresher actions).after more :=
  after_append ..

theorem governed_reached (refresher : Refresher) (actions : List ClientAction) :
    ∃ incumbent, (reached refresher actions).supervisor.Governed incumbent := by
  refine keeps_after (motive := fun supervisor => ∃ incumbent, supervisor.Governed incumbent) ?_ ?_
    (avoids_of_forall fun _ _ => False.elim) ?_
  · rintro supervisor move - ⟨incumbent, h⟩
    exact h.step move
  · rintro supervisor refresher hsame ⟨incumbent, h⟩
    have hanswers : ({ supervisor with refresher } : Supervisor).Answers incumbent :=
      h.answers.congr rfl rfl (fun _ _ => id) fun hstopped =>
        (congrArg (·.state) hsame.connection).trans hstopped
    exact ⟨incumbent, h.numbered.congr (Nat.le_refl _) rfl rfl rfl, hanswers, h.alive, h.single⟩
  · exact ⟨none, Supervisor.numbered_start refresher, .slot rfl, nofun, Nat.zero_le 1⟩

theorem hasGone_after {client : Client} {number : Nat} (h : client.supervisor.HasGone number)
    (actions : List ClientAction) : (client.after actions).supervisor.HasGone number :=
  keeps_after (motive := fun supervisor => supervisor.HasGone number)
    (fun {_ move} _ h => h.step move) (fun _ h => ⟨h.used, h.gone⟩)
    (avoids_of_forall fun _ _ => False.elim) h

/-- No signal reaches a task that has gone. -/
theorem step_of_hasGone {client : Client} {number : Nat} (h : client.supervisor.HasGone number)
    (signal : StreamSignal) : client.step (.move (.resume number signal)) = (client, []) := by
  dsimp only [step, Supervisor.step, Supervisor.resumed]
  rw [h.gone]

theorem used_after {client : Client} {number : Nat} (h : number < client.supervisor.nextNumber)
    (actions : List ClientAction) : number < (client.after actions).supervisor.nextNumber :=
  keeps_after (motive := fun supervisor => number < supervisor.nextNumber)
    (fun {supervisor move} _ h => Nat.lt_of_lt_of_le h (supervisor.nextNumber_step move))
    (fun _ => id) (avoids_of_forall fun _ _ => False.elim) h

theorem atRest_after {client : Client} (h : client.supervisor.AtRest) {actions : List ClientAction}
    (hnone : client.Avoids Supervisor.Restarts actions) :
    (client.after actions).supervisor.AtRest :=
  keeps_after (motive := Supervisor.AtRest) (fun hrestarts h => h.step hrestarts)
    (fun hsame h =>
      ⟨h.tasks, (congrArg (·.state) hsame.connection).trans h.stopped, h.unclaimed⟩) hnone h

/-- A pending call returns with an action. -/
def Returns (client : Client) (action : ClientAction) (call : StreamCall) : Prop :=
  ∃ number, client.supervisor.calls.lookup number = some call ∧
    (client.step action).1.supervisor.calls.lookup number = none

/-- A call returns when it holds the lock, either having spawned its task or having found its task
gone. -/
theorem Returns.cases {client : Client} {action : ClientAction} {call : StreamCall}
    (h : client.Returns action call) :
    ∃ number, client.supervisor.lockHolder = some number ∧
      client.supervisor.calls.lookup number = some call ∧
      ((∃ url previous, call = .replacing url previous ∧
          previous.any client.supervisor.isAlive = false ∧
          (client.step action).1.supervisor = (client.supervisor.spawn url).release number) ∨
        ∃ task, call = .joining task ∧ task.any client.supervisor.isAlive = false ∧
          (client.step action).1.supervisor = client.supervisor.release number) := by
  obtain ⟨number, hcall, hreturned⟩ := h
  refine ⟨number, ?_⟩
  obtain ⟨move, rfl⟩ | ⟨⟨refresher, -, hnext⟩, -⟩ := client.step_cases action
  · obtain ⟨hlock, hways⟩ := (client.supervisor.stepped move).returned hcall hreturned
    exact ⟨hlock, hcall, hways⟩
  · -- No call returns with an action that is not a move.
    rw [hnext] at hreturned
    cases hcall.symm.trans hreturned

section Reached

variable {refresher : Refresher} {actions : List ClientAction}

/-- The number of a task that was alive at some time has been given out. -/
theorem used_of_isAlive {before : List ClientAction} (hbefore : before <+: actions) {number : Nat}
    (halive : (reached refresher before).supervisor.isAlive number = true) :
    number < (reached refresher actions).supervisor.nextNumber := by
  obtain ⟨between, rfl⟩ := hbefore
  obtain ⟨incumbent, hgoverned⟩ := governed_reached refresher before
  rw [reached_append]
  exact used_after (hgoverned.numbered.lt_of_isAlive halive) between

variable {action : ClientAction} {call : StreamCall}
  (hreturns : (reached refresher actions).Returns action call)
include hreturns

/-- A call for a stream returns when its task is the only one and all earlier ones have gone. -/
theorem Returns.of_start {url : String} (hurl : call.url? = some url) :
    let returned := ((reached refresher actions).step action).1.supervisor
    (∃ number, returned.tasks = [(number, { url })]) ∧
      ∀ old, old < (reached refresher actions).supervisor.nextNumber → returned.HasGone old := by
  intro returned
  obtain ⟨incumbent, hgoverned⟩ := governed_reached refresher actions
  obtain ⟨number, hlock, hcall, hways⟩ := hreturns.cases
  obtain ⟨_, previous, rfl, hgone, hreturned⟩ | ⟨task, rfl, -⟩ := hways
  · cases hurl
    rw [show returned = _ from hreturned]
    exact ⟨⟨_, hgoverned.tasks_of_restart hlock hcall hgone⟩,
      fun old hused => hgoverned.hasGone hlock hcall hgone hused⟩
  · cases hurl

/-- A shutdown returns when everything is at rest. -/
theorem Returns.of_shutdown (hurl : call.url? = none) :
    ((reached refresher actions).step action).1.supervisor.AtRest := by
  obtain ⟨incumbent, hgoverned⟩ := governed_reached refresher actions
  obtain ⟨number, hlock, hcall, hways⟩ := hreturns.cases
  obtain ⟨url, previous, rfl, -⟩ | ⟨task, rfl, hgone, hreturned⟩ := hways
  · cases hurl
  · rw [hreturned]
    exact hgoverned.atRest hlock hcall hgone

end Reached

/-- A call for a stream that has no URL is refused. -/
theorem step_callStart_of_error {client : Client} {error : Error}
    (herror : client.refresher.contexts.current.streamUrl = .error error) :
    client.step (.move .callStart) = (client, []) := by
  have hrefused : client.supervisor.refresher.contexts.current.streamUrl = .error error := herror
  dsimp only [step, Supervisor.step]
  rw [hrefused]

/-- **One stream at a time.**  Whatever the host and the tasks do in whatever order, at most one
task is alive.  When a call for a stream returns, the task it has spawned is the only one, and no
task that was alive at any time before does or changes anything ever after.  When a shutdown
returns, no task is alive and the connection is stopped, and so it remains until a call for a stream
gets the lock.  And a call for a stream that has no URL changes nothing at all. -/
theorem one_stream_at_a_time (refresher : Refresher) (actions : List ClientAction) :
    let client := reached refresher actions
    client.supervisor.tasks.length ≤ 1 ∧
    (∀ action call url, client.Returns action call → call.url? = some url →
      (∃ number, (client.step action).1.supervisor.tasks = [(number, { url })]) ∧
      ∀ before, before <+: actions →
        ∀ old, (reached refresher before).supervisor.isAlive old = true → ∀ later signal,
          let now := reached refresher (actions ++ action :: later)
          now.step (.move (.resume old signal)) = (now, [])) ∧
    (∀ action call, client.Returns action call → call.url? = none →
      ∀ later, (client.step action).1.Avoids Supervisor.Restarts later →
        let now := reached refresher (actions ++ action :: later)
        now.supervisor.tasks = [] ∧ now.refresher.connection.state = .stopped) ∧
    (∀ error, client.refresher.contexts.current.streamUrl = .error error →
      client.step (.move .callStart) = (client, [])) := by
  intro client
  obtain ⟨incumbent, hgoverned⟩ := governed_reached refresher actions
  have hnow (action : ClientAction) (later : List ClientAction) :
      reached refresher (actions ++ action :: later) = (client.step action).1.after later :=
    reached_append refresher actions (action :: later)
  refine ⟨hgoverned.single, ?_, ?_, fun error => step_callStart_of_error⟩
  · intro action call url hreturns hurl
    obtain ⟨halone, hgone⟩ := hreturns.of_start hurl
    refine ⟨halone, fun before hbefore old halive later signal => ?_⟩
    rw [hnow]
    have hold := hgone old (used_of_isAlive hbefore halive)
    exact step_of_hasGone (hasGone_after hold later) signal
  · intro action call hreturns hurl later hnone
    rw [hnow]
    have hrest := atRest_after (hreturns.of_shutdown hurl) hnone
    exact ⟨hrest.tasks, hrest.stopped⟩

/-- A stream is replaced while a shutdown waits behind the call for the new stream. The first task
is aborted and goes, and a failure of its stream makes no difference any more. The shutdown gets the
lock next, and when the second task has gone it returns; a third call for a stream has to get the
lock first. A call for a stream at a host without a name is refused. -/
theorem replaced_and_shut_down :
    let refresher : Refresher := .ofConfig ⟨{ apiKey := "k", hostUrl := "http://[::1]" }⟩ {}
    let url := "http://[::1]/sub/k"
    let before : List ClientAction :=
      [.move .callStart, .move (.acquire 0), .move (.finish 0), .move (.resume 1 .resumed)]
    let replacing : List ClientAction := before ++
      [.move .callStart, .move .callShutdown, .move (.acquire 2), .move (.reap 1)]
    let stopping : List ClientAction := replacing ++
      [.move (.finish 2), .move (.acquire 3), .move (.resume 4 .stopped)]
    let moving : List ClientAction := [.updateContext fun context => { context with hostUrl := "" }]
    let later : List ClientAction := [.move .callStart, .beginFetch]
    (reached refresher replacing).Returns (.move (.finish 2)) (.replacing url (some 1)) ∧
      (∃ number,
        ((reached refresher replacing).step (.move (.finish 2))).1.supervisor.tasks =
          [(number, { url })]) ∧
      (reached refresher before).supervisor.isAlive 1 = true ∧
      (reached refresher (replacing ++ .move (.finish 2) :: later)).step
          (.move (.resume 1 (.failed .unauthorized))) =
        (reached refresher (replacing ++ .move (.finish 2) :: later), []) ∧
      (reached refresher stopping).Returns (.move (.finish 3)) (.joining (some 4)) ∧
      ((reached refresher stopping).step (.move (.finish 3))).1.Avoids Supervisor.Restarts later ∧
      (reached refresher (stopping ++ .move (.finish 3) :: later)).supervisor.tasks = [] ∧
      (reached refresher (stopping ++ .move (.finish 3) :: later)).refresher.connection.state =
        .stopped ∧
      (∃ error, (reached refresher moving).refresher.contexts.current.streamUrl = .error error) ∧
      (reached refresher moving).step (.move .callStart) = (reached refresher moving, []) := by
  intro refresher url before replacing stopping moving later
  have hreturns : (reached refresher replacing).Returns (.move (.finish 2))
      (.replacing url (some 1)) := ⟨2, by decide +kernel, by decide +kernel⟩
  have halive : (reached refresher before).supervisor.isAlive 1 = true := by decide +kernel
  have hstops : (reached refresher stopping).Returns (.move (.finish 3)) (.joining (some 4)) :=
    ⟨3, by decide +kernel, by decide +kernel⟩
  have hnone : ((reached refresher stopping).step (.move (.finish 3))).1.Avoids
      Supervisor.Restarts later :=
    avoids_of_forall fun supervisor move hrestarts => by cases hrestarts; simp [later]
  have hinvalid : (reached refresher moving).refresher.contexts.current.streamUrl.isOk = false := by
    decide +kernel
  obtain ⟨error, hrefused⟩ :
      ∃ error, (reached refresher moving).refresher.contexts.current.streamUrl = .error error := by
    cases hurl : (reached refresher moving).refresher.contexts.current.streamUrl with
    | ok page =>
        rw [hurl] at hinvalid
        cases hinvalid
    | error error => exact ⟨error, rfl⟩
  -- the law at three moments: of the replacing call, the shutdown and the call that is refused
  obtain ⟨-, hreplaced, -, -⟩ := one_stream_at_a_time refresher replacing
  obtain ⟨-, -, hshutDown, -⟩ := one_stream_at_a_time refresher stopping
  obtain ⟨-, -, -, hunchanged⟩ := one_stream_at_a_time refresher moving
  obtain ⟨htasks, hgone⟩ := hreplaced _ _ _ hreturns rfl
  obtain ⟨hidle, hstopped⟩ := hshutDown _ _ hstops rfl _ hnone
  exact ⟨hreturns, htasks, halive, hgone before (List.prefix_append ..) 1 halive _ _, hstops, hnone,
    hidle, hstopped, ⟨error, hrefused⟩, hunchanged error hrefused⟩

end Client

end FeatureFlags

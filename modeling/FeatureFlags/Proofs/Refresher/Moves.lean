import FeatureFlags.Refresher.Client

/-!
# What a move comes to

A move of a supervisor can come to different things, and `Supervisor.Stepped` has one rule
for each: it is not possible or has to wait, a call is made, the connection is stopped, a
call gets the lock, a call that holds the lock returns, an aborted task goes away, or a
task takes a signal and goes on or ends.  Each rule names what had to be the case before,
and there is no other way (`Supervisor.stepped`).  What every move keeps is shown by going
through the rules.
-/

namespace FeatureFlags.Supervisor

/-- A task that can still take signals. -/
structure IsRunning (supervisor : Supervisor) (number : Nat) (task : StreamTask) : Prop where
  lookup : supervisor.tasks.lookup number = some task
  spared : number ∉ supervisor.aborted

/-- What a move comes to, with its activities. -/
inductive Stepped (supervisor : Supervisor) : Move → Supervisor → List Activity → Prop
  /-- The move is not possible, or has to wait. -/
  | unchanged {move : Move}
      (hidle : ∀ number signal, move = .resume number signal →
        ∀ task, ¬supervisor.IsRunning number task) : Stepped supervisor move supervisor []
  /-- The host asks for a stream. -/
  | asked {url : String} : Stepped supervisor .callStart (supervisor.addCall (.starting url)) []
  /-- The host asks for a shutdown. -/
  | dismissed : Stepped supervisor .callShutdown (supervisor.addCall .stopping) []
  | stopped : Stepped supervisor .stop supervisor.stopConnection []
  /-- A call that starts a stream gets the lock and aborts the task started last. -/
  | replacing {call : Nat} {url : String} (hfree : supervisor.lockHolder = none)
      (hcall : supervisor.calls.lookup call = some (.starting url)) :
      Stepped supervisor (.acquire call) (supervisor.acquired call (.starting url)) []
  /-- A call that shuts down gets the lock and stops the connection. -/
  | joining {call : Nat} (hfree : supervisor.lockHolder = none)
      (hcall : supervisor.calls.lookup call = some .stopping) :
      Stepped supervisor (.acquire call) (supervisor.acquired call .stopping) []
  /-- A call that starts a stream finds the task before it gone and returns. -/
  | spawned {call : Nat} {url : String} {previous : Option Nat}
      (hlock : supervisor.lockHolder = some call)
      (hcall : supervisor.calls.lookup call = some (.replacing url previous))
      (hgone : previous.any supervisor.isAlive = false) :
      Stepped supervisor (.finish call) ((supervisor.spawn url).release call) []
  /-- A call that shuts down finds the task gone and returns. -/
  | joined {call : Nat} {task : Option Nat} (hlock : supervisor.lockHolder = some call)
      (hcall : supervisor.calls.lookup call = some (.joining task))
      (hgone : task.any supervisor.isAlive = false) :
      Stepped supervisor (.finish call) (supervisor.release call) []
  | reaped {number : Nat} (haborted : number ∈ supervisor.aborted) :
      Stepped supervisor (.reap number) (supervisor.withoutTask number) []
  /-- A task takes a signal and goes on. -/
  | continued {number : Nat} {signal : StreamSignal} {task next : StreamTask}
      (hrunning : supervisor.IsRunning number task)
      (hresult : (task.resume supervisor.refresher signal).result = some next) :
      Stepped supervisor (.resume number signal)
        ({ supervisor with
            refresher := (task.resume supervisor.refresher signal).refresher :
            Supervisor }.setTask number next)
        (task.resume supervisor.refresher signal).activities
  /-- A task takes a signal and ends. -/
  | ended {number : Nat} {signal : StreamSignal} {task : StreamTask}
      (hrunning : supervisor.IsRunning number task)
      (hresult : (task.resume supervisor.refresher signal).result = none) :
      Stepped supervisor (.resume number signal)
        ({ supervisor with
            refresher := (task.resume supervisor.refresher signal).refresher :
            Supervisor }.withoutTask number)
        (task.resume supervisor.refresher signal).activities

variable (supervisor : Supervisor)

theorem stepped_acquire (call : Nat) :
    supervisor.Stepped (.acquire call) (supervisor.step (.acquire call)).1
      (supervisor.step (.acquire call)).2 := by
  dsimp only [step]
  cases hfree : supervisor.lockHolder with
  | some other => exact .unchanged nofun
  | none =>
      cases hcall : supervisor.calls.lookup call with
      | none => exact .unchanged nofun
      | some held =>
          cases held with
          | starting url => exact .replacing hfree hcall
          | stopping => exact .joining hfree hcall
          | replacing url previous => exact .unchanged nofun
          | joining task => exact .unchanged nofun

theorem stepped_finish (call : Nat) :
    supervisor.Stepped (.finish call) (supervisor.step (.finish call)).1
      (supervisor.step (.finish call)).2 := by
  dsimp only [step]
  cases hcall : supervisor.calls.lookup call with
  | none => exact .unchanged nofun
  | some held =>
      dsimp only
      by_cases hlock : supervisor.lockHolder = some call
      · rw [if_pos hlock]
        cases held with
        | starting url => exact .unchanged nofun
        | stopping => exact .unchanged nofun
        | replacing url previous =>
            dsimp only [finished]
            -- the call waits until the task it took out of the slot is gone
            cases hgone : previous.any supervisor.isAlive with
            | true => exact .unchanged nofun
            | false => exact .spawned hlock hcall hgone
        | joining task =>
            dsimp only [finished]
            cases hgone : task.any supervisor.isAlive with
            | true => exact .unchanged nofun
            | false => exact .joined hlock hcall hgone
      · rw [if_neg hlock]
        exact .unchanged nofun

/-- What becomes of a task that takes a signal is what the signal makes of it. -/
theorem resumed_of_isRunning {number : Nat} {task : StreamTask}
    (hrunning : supervisor.IsRunning number task) (signal : StreamSignal) :
    let step := task.resume supervisor.refresher signal
    let next : Supervisor := { supervisor with refresher := step.refresher }
    supervisor.resumed number signal =
      (step.result.elim (next.withoutTask number) (next.setTask number), step.activities) := by
  have hspared : supervisor.aborted.contains number = false := by simpa using hrunning.spared
  simp only [resumed, hrunning.lookup, hspared, Bool.false_eq_true, if_false]
  cases (task.resume supervisor.refresher signal).result <;> rfl

theorem stepped_resume (number : Nat) (signal : StreamSignal) :
    supervisor.Stepped (.resume number signal) (supervisor.step (.resume number signal)).1
      (supervisor.step (.resume number signal)).2 := by
  dsimp only [step]
  cases hlookup : supervisor.tasks.lookup number with
  | none =>
      rw [resumed, hlookup]
      refine .unchanged ?_
      rintro _ _ ⟨⟩ task hrunning
      cases hlookup.symm.trans hrunning.lookup
  | some task =>
      by_cases haborted : number ∈ supervisor.aborted
      · have hcontains : supervisor.aborted.contains number = true := by simpa using haborted
        rw [resumed, hlookup]
        dsimp only
        rw [if_pos hcontains]
        refine .unchanged ?_
        rintro _ _ ⟨⟩ task hrunning
        exact hrunning.spared haborted
      · have hrunning : supervisor.IsRunning number task := ⟨hlookup, haborted⟩
        rw [supervisor.resumed_of_isRunning hrunning]
        cases hresult : (task.resume supervisor.refresher signal).result with
        | some next => exact .continued hrunning hresult
        | none => exact .ended hrunning hresult

/-- **Every move follows one of the rules.** -/
theorem stepped (move : Move) :
    supervisor.Stepped move (supervisor.step move).1 (supervisor.step move).2 := by
  cases move with
  | callStart =>
      dsimp only [step]
      cases supervisor.refresher.contexts.current.streamUrl with
      | ok url => exact .asked
      | error error => exact .unchanged nofun
  | callShutdown => exact .dismissed
  | stop => exact .stopped
  | acquire call => exact supervisor.stepped_acquire call
  | finish call => exact supervisor.stepped_finish call
  | reap number =>
      dsimp only [step]
      cases haborted : supervisor.aborted.contains number with
      | true => exact .reaped (by simpa using haborted)
      | false => exact .unchanged nofun
  | resume number signal => exact supervisor.stepped_resume number signal

end FeatureFlags.Supervisor

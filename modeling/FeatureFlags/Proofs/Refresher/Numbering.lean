import FeatureFlags.Proofs.Refresher.Moves

/-!
# Tasks under numbers

A supervisor keeps its tasks under numbers and gives every new task a number that none has
had before (`Supervisor.Numbered`, which holds at the start and is kept by every run).  So
the task that a call spawns is found under its number, as it was spawned
(`Supervisor.Numbered.hasSpawned_finish`), and what happens to one task does not touch
another.
-/

namespace FeatureFlags

namespace Supervisor

/-! ## Looking things up -/

section Lookup

variable {Held : Type} (entries : List (Nat × Held)) (number other : Nat)

/-- What replaces an entry is found under the number of the entry, and all else as before. -/
theorem lookup_replace (held : Held) :
    (entries.map fun entry => if entry.1 = number then (number, held) else entry).lookup other =
      if other = number then (entries.lookup number).map fun _ => held
      else entries.lookup other := by
  induction entries with
  | nil => simp
  | cons entry rest ih =>
      obtain ⟨key, kept⟩ := entry
      rw [List.map_cons]
      by_cases hkey : key = number
      · subst hkey
        by_cases hother : other = key
        · subst hother
          simp only [if_true, List.lookup_cons_self, Option.map_some]
        · simp only [if_true, List.lookup_cons, beq_false_of_ne hother, ih, if_neg hother]
      · simp only [if_neg hkey, List.lookup_cons, beq_false_of_ne (Ne.symm hkey), ih]
        by_cases hother : other = number
        · subst hother
          simp only [if_true, beq_false_of_ne (Ne.symm hkey)]
        · simp only [if_neg hother]

/-- An entry that is removed is not found, and all else as before. -/
theorem lookup_remove :
    (entries.filter (·.1 ≠ number)).lookup other =
      if other = number then none else entries.lookup other := by
  induction entries with
  | nil => simp
  | cons entry rest ih =>
      obtain ⟨key, kept⟩ := entry
      rw [List.filter_cons]
      by_cases hkey : key = number
      · subst hkey
        rw [if_neg (by simp), ih]
        by_cases hother : other = key
        · simp only [if_pos hother]
        · simp only [if_neg hother, List.lookup_cons, beq_false_of_ne hother]
      · rw [if_pos (by simp [hkey]), List.lookup_cons, List.lookup_cons, ih]
        by_cases hother : other = number
        · subst hother
          simp only [if_true, beq_false_of_ne (Ne.symm hkey)]
        · simp only [if_neg hother]

variable (supervisor : Supervisor)

theorem lookup_setTask {task : StreamTask} (halive : supervisor.tasks.lookup number = some task)
    (next : StreamTask) : (supervisor.setTask number next).tasks.lookup number = some next := by
  rw [setTask, lookup_replace, if_pos rfl, halive]
  rfl

theorem lookup_withoutTask : (supervisor.withoutTask number).tasks.lookup number = none := by
  rw [withoutTask, lookup_remove, if_pos rfl]

/-- Another task that goes away leaves the task alone. -/
theorem lookup_withoutTask_of_ne {other : Nat} (hne : number ≠ other) :
    (supervisor.withoutTask other).tasks.lookup number = supervisor.tasks.lookup number := by
  rw [withoutTask, lookup_remove, if_neg hne]

/-- The tasks keep their numbers when one of them changes. -/
theorem exists_of_mem_setTask {supervisor : Supervisor} {number : Nat} {task : StreamTask}
    {entry : Nat × StreamTask} (hentry : entry ∈ (supervisor.setTask number task).tasks) :
    ∃ other ∈ supervisor.tasks, other.1 = entry.1 := by
  obtain ⟨other, hother, rfl⟩ := List.mem_map.mp hentry
  refine ⟨other, hother, ?_⟩
  split
  · assumption
  · rfl

end Lookup

/-! ## Numbers in use -/

/-- The numbers of all tasks, also of those that are gone and may still be named, lie below the
next one. -/
structure Numbered (supervisor : Supervisor) : Prop where
  tasks : ∀ entry ∈ supervisor.tasks, entry.1 < supervisor.nextNumber
  aborted : ∀ number ∈ supervisor.aborted, number < supervisor.nextNumber
  current : ∀ number ∈ supervisor.current, number < supervisor.nextNumber

/-- A supervisor that has not done anything yet. -/
theorem numbered_start (refresher : Refresher) : ({ refresher } : Supervisor).Numbered :=
  ⟨nofun, nofun, nofun⟩

namespace Numbered

variable {supervisor : Supervisor}

theorem lt_of_isAlive (h : supervisor.Numbered) {number : Nat}
    (halive : supervisor.isAlive number = true) : number < supervisor.nextNumber := by
  obtain ⟨entry, hentry, hnumber⟩ := List.lookup_isSome_iff.mp halive
  rw [eq_of_beq hnumber]
  exact h.tasks entry hentry

/-- No new number comes into use. -/
theorem of_subset (h : supervisor.Numbered) {next : Supervisor}
    (hnumber : supervisor.nextNumber ≤ next.nextNumber)
    (htasks : ∀ entry ∈ next.tasks, ∃ other ∈ supervisor.tasks, other.1 = entry.1)
    (haborted : ∀ number ∈ next.aborted, number ∈ supervisor.aborted ∨ number ∈ supervisor.current)
    (hcurrent : ∀ number ∈ next.current, number ∈ supervisor.current) : next.Numbered where
  tasks := fun entry hentry => by
    obtain ⟨other, hother, hsame⟩ := htasks entry hentry
    exact hsame ▸ Nat.lt_of_lt_of_le (h.tasks other hother) hnumber
  aborted := fun number hmem => Nat.lt_of_lt_of_le
    ((haborted number hmem).elim (h.aborted number) (h.current number)) hnumber
  current := fun number hmem => Nat.lt_of_lt_of_le (h.current number (hcurrent number hmem)) hnumber

/-- Neither the tasks nor their numbers change. -/
theorem congr (h : supervisor.Numbered) {next : Supervisor}
    (hnumber : supervisor.nextNumber ≤ next.nextNumber) (htasks : next.tasks = supervisor.tasks)
    (haborted : next.aborted = supervisor.aborted) (hcurrent : next.current = supervisor.current) :
    next.Numbered :=
  h.of_subset hnumber (fun entry hentry => ⟨entry, htasks ▸ hentry, rfl⟩)
    (fun _ hmem => Or.inl (haborted ▸ hmem)) (fun _ hmem => hcurrent ▸ hmem)

theorem withoutTask (h : supervisor.Numbered) (number : Nat) :
    (supervisor.withoutTask number).Numbered :=
  h.of_subset (Nat.le_refl _) (fun entry hentry => ⟨entry, (List.mem_filter.mp hentry).1, rfl⟩)
    (fun _ => Or.inl) (fun _ => id)

theorem setTask (h : supervisor.Numbered) (number : Nat) (task : StreamTask) :
    (supervisor.setTask number task).Numbered :=
  h.of_subset (Nat.le_refl _) (fun _ => exists_of_mem_setTask) (fun _ => Or.inl) (fun _ => id)

theorem acquired (h : supervisor.Numbered) (number : Nat) (call : StreamCall) :
    (supervisor.acquired number call).Numbered := by
  cases call with
  | starting url =>
      refine h.of_subset (Nat.le_refl _) (fun entry hentry => ⟨entry, hentry, rfl⟩)
        (fun task hmem => ?_) nofun
      exact (List.mem_append.mp hmem).elim (fun h => Or.inr (Option.mem_toList.mp h)) Or.inl
  | stopping =>
      exact h.of_subset (Nat.le_refl _) (fun entry hentry => ⟨entry, hentry, rfl⟩)
        (fun _ => Or.inl) nofun
  | _ => exact h

theorem spawn (h : supervisor.Numbered) (url : String) : (supervisor.spawn url).Numbered where
  tasks := fun entry hentry => by
    rcases List.mem_append.mp hentry with hold | hnew
    · exact Nat.lt_succ_of_lt (h.tasks entry hold)
    · rw [List.mem_singleton.mp hnew]
      exact Nat.lt_succ_self _
  aborted := fun number hmem => Nat.lt_succ_of_lt (h.aborted number hmem)
  current := fun number hmem => by
    cases hmem
    exact Nat.lt_succ_self _

/-- **Every move keeps the numbers apart.** -/
theorem step (h : supervisor.Numbered) (move : Move) : (supervisor.step move).1.Numbered := by
  have hrefreshed (refresher : Refresher) : ({ supervisor with refresher } : Supervisor).Numbered :=
    h.congr (Nat.le_refl _) rfl rfl rfl
  have hstep := supervisor.stepped move
  generalize (supervisor.step move).1 = next, (supervisor.step move).2 = activities at hstep
  cases hstep with
  | unchanged => exact h
  | asked | dismissed => exact h.congr (Nat.le_succ _) rfl rfl rfl
  | stopped => exact hrefreshed _
  | replacing | joining => exact h.acquired _ _
  | @spawned _ url => exact (h.spawn url).congr (Nat.le_refl _) rfl rfl rfl
  | joined => exact h.congr (Nat.le_refl _) rfl rfl rfl
  | reaped => exact h.withoutTask _
  | continued => exact (hrefreshed _).setTask _ _
  | ended => exact (hrefreshed _).withoutTask _

theorem run (h : supervisor.Numbered) (moves : List Move) : (supervisor.run moves).1.Numbered := by
  induction moves generalizing supervisor with
  | nil => exact h
  | cons move rest ih => exact ih (h.step move)

end Numbered

/-! ## Spawned tasks -/

/-- A stream has just been started: its task is to run on an active connection without failures. -/
structure HasSpawned (supervisor : Supervisor) (number : Nat) (url : String) : Prop where
  lookup : supervisor.tasks.lookup number = some { url }
  spared : number ∉ supervisor.aborted
  active : supervisor.refresher.connection.state = .active
  new : supervisor.refresher.backoff.attempt = 0

namespace Numbered

variable {supervisor : Supervisor}

theorem hasSpawned_spawn (h : supervisor.Numbered) (url : String) :
    (supervisor.spawn url).HasSpawned supervisor.nextNumber url where
  lookup := by
    have hunused : supervisor.tasks.lookup supervisor.nextNumber = none := by
      rw [List.lookup_eq_none_iff]
      intro entry hentry
      exact bne_iff_ne.mpr (Nat.ne_of_gt (h.tasks entry hentry))
    dsimp only [Supervisor.spawn]
    rw [List.lookup_append, hunused, List.lookup_cons_self]
    rfl
  spared := fun hmem => Nat.lt_irrefl _ (h.aborted _ hmem)
  active := Connection.state_turn ..
  new := rfl

/-- A call that starts a stream and has nothing left to wait for spawns its task. -/
theorem hasSpawned_finish (h : supervisor.Numbered) {call : Nat} {url : String}
    {previous : Option Nat} (hcall : supervisor.calls.lookup call = some (.replacing url previous))
    (hlock : supervisor.lockHolder = some call)
    (hgone : previous.any supervisor.isAlive = false) :
    (supervisor.step (.finish call)).1.HasSpawned supervisor.nextNumber url := by
  have hspawned := h.hasSpawned_spawn url
  have hstep : (supervisor.step (.finish call)).1 = (supervisor.spawn url).release call := by
    simp only [Supervisor.step, hcall, if_pos hlock, Supervisor.finished, hgone,
      Bool.false_eq_true, if_false]
  rw [hstep]
  exact ⟨hspawned.lookup, hspawned.spared, hspawned.active, hspawned.new⟩

end Numbered

end Supervisor

end FeatureFlags

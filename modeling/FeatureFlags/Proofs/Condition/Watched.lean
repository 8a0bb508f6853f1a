import FeatureFlags.Condition.Observation

/-!
# Evaluations before observers

An evaluation is passive if it depends on no observer: it has one answer, and makes calls that can
be listed beforehand, and beyond making them it does nothing to the state of an observer
(`Watched.Reports`).  The list is what the observer that writes everything down ends up with.

Passive parts make up passive evaluations.  Steps that are made in turn until one of them decides
have the calls of those that are made, which are the steps up to and including the first that
decides (`Watched.reports_allOf`, `Watched.reports_anyOf`); both by induction on the list, in which
the calls of the first step come before those of the rest.
-/

namespace FeatureFlags

/-- The items up to the first one to stop at, which is still among them. -/
def upTo {α : Type} (stops : α → Bool) (items : List α) : List α :=
  items.take (items.findIdx stops + 1)

theorem upTo_nil {α : Type} (stops : α → Bool) : upTo stops [] = [] := rfl

theorem upTo_cons {α : Type} (stops : α → Bool) (item : α) (rest : List α) :
    upTo stops (item :: rest) = item :: if stops item then [] else upTo stops rest := by
  rw [upTo, List.take_succ_cons, List.findIdx_cons]
  cases stops item <;> rfl

theorem upTo_map {α β : Type} (stops : β → Bool) (f : α → β) (items : List α) :
    upTo stops (items.map f) = (upTo (stops ∘ f) items).map f := by
  rw [upTo, upTo, List.findIdx_map, List.map_take]

section Steps

variable {σ α : Type} (run : α → StateM σ Bool) (item : α) (rest : List α)

theorem allM_cons : (item :: rest).allM run = (run item <&&> rest.allM run) :=
  bind_congr fun answer => by cases answer <;> rfl

theorem anyM_cons : (item :: rest).anyM run = (run item <||> rest.anyM run) :=
  bind_congr fun answer => by cases answer <;> rfl

end Steps

/-- What an observer is told of a field. -/
structure FieldCall where
  path : AttributePath
  matched : Bool
deriving DecidableEq, Repr

namespace Condition

namespace Observer

variable {σ : Type}

/-- The state of an observer after some calls. -/
def follow (observer : Observer σ) (calls : List FieldCall) (state : σ) : σ :=
  calls.foldl (fun state call => observer.onField call.path call.matched state) state

theorem follow_append (observer : Observer σ) (first second : List FieldCall) (state : σ) :
    observer.follow (first ++ second) state =
      observer.follow second (observer.follow first state) :=
  List.foldl_append

/-- The observer that writes down the calls. -/
def recorder : Observer (List FieldCall) := ⟨fun path matched calls => calls ++ [⟨path, matched⟩]⟩

theorem recorder_follow (calls earlier : List FieldCall) :
    recorder.follow calls earlier = earlier ++ calls := by
  induction calls generalizing earlier with
  | nil => exact (List.append_nil earlier).symm
  | cons call rest ih =>
      show recorder.follow rest (earlier ++ [call]) = _
      rw [ih, List.append_assoc, List.singleton_append]

end Observer

/-- An evaluation before whichever observer. -/
def Watched := (σ : Type) → Observer σ → StateM σ Bool

namespace Watched

/-- The answer before an idle observer. -/
def answer (watched : Watched) : Bool := ((watched _ .idle).run ()).run.1

/-- The calls that the recorder writes down. -/
def calls (watched : Watched) : List FieldCall := ((watched _ .recorder).run []).run.2

/-- Whoever observes, the evaluation has the answer, and does nothing to the observer but
the calls. -/
def Reports (watched : Watched) (answer : Bool) (calls : List FieldCall) : Prop :=
  ∀ (σ : Type) (observer : Observer σ) (state : σ),
    (watched σ observer).run state = (answer, observer.follow calls state)

variable {watched : Watched} {answer : Bool} {calls : List FieldCall}

namespace Reports

theorem answer_eq (h : watched.Reports answer calls) : watched.answer = answer :=
  congrArg (fun run : Id (Bool × Unit) => run.run.1) (h Unit .idle ())

theorem calls_eq (h : watched.Reports answer calls) : watched.calls = calls := by
  have hcalls := congrArg (fun run : Id (Bool × List FieldCall) => run.run.2) (h _ .recorder [])
  exact hcalls.trans (Observer.recorder_follow calls [])

end Reports

/-- The evaluation depends on no observer. -/
def Passive (watched : Watched) : Prop := watched.Reports watched.answer watched.calls

theorem Reports.passive (h : watched.Reports answer calls) : watched.Passive := by
  rw [Passive, h.answer_eq, h.calls_eq]
  exact h

/-! ### Parts of evaluations -/

/-- Nothing is told. -/
def silent (answer : Bool) : Watched := fun _ _ => pure answer

def negated (watched : Watched) : Watched := fun σ observer => not <$> watched σ observer

/-- A field is told once its test is over. -/
def told (path : AttributePath) (watched : Watched) : Watched := fun σ observer => do
  let matched ← watched σ observer
  modify (observer.onField path matched)
  return matched

/-- One after the other, until one fails. -/
def allOf {α : Type} (items : List α) (run : α → Watched) : Watched :=
  fun σ observer => items.allM fun item => run item σ observer

/-- One after the other, until one succeeds. -/
def anyOf {α : Type} (items : List α) (run : α → Watched) : Watched :=
  fun σ observer => items.anyM fun item => run item σ observer

/-- An empty list of alternatives succeeds. -/
def anyOrEmpty {α : Type} (items : List α) (run : α → Watched) : Watched :=
  if items.isEmpty then silent true else anyOf items run

theorem reports_silent (answer : Bool) : (silent answer).Reports answer [] := fun _ _ _ => rfl

theorem Reports.negated (h : watched.Reports answer calls) :
    watched.negated.Reports (!answer) calls := by
  intro σ observer state
  rw [Watched.negated, StateT.run_map, h σ observer state]
  rfl

theorem Reports.told (h : watched.Reports answer calls) (path : AttributePath) :
    (watched.told path).Reports answer (calls ++ [⟨path, answer⟩]) := by
  intro σ observer state
  rw [Watched.told, StateT.run_bind, h σ observer state, Observer.follow_append]
  rfl

section Lists

variable {α : Type} {items : List α} {run : α → Watched}

theorem reports_allOf (h : ∀ item ∈ items, (run item).Passive) :
    (allOf items run).Reports (items.all fun item => (run item).answer)
      ((upTo (fun item => !(run item).answer) items).flatMap fun item => (run item).calls) := by
  induction items with
  | nil => exact reports_silent true
  | cons item rest ih =>
      intro σ observer state
      have hitem := h item (List.mem_cons_self ..) σ observer state
      have hrest := ih fun other hother => h other (List.mem_cons_of_mem _ hother)
      rw [allOf, List.allM, StateT.run_bind, hitem, List.all_cons, upTo_cons, List.flatMap_cons,
        Observer.follow_append]
      cases (run item).answer with
      | true => exact hrest σ observer _
      | false => rfl

theorem reports_anyOf (h : ∀ item ∈ items, (run item).Passive) :
    (anyOf items run).Reports (items.any fun item => (run item).answer)
      ((upTo (fun item => (run item).answer) items).flatMap fun item => (run item).calls) := by
  induction items with
  | nil => exact reports_silent false
  | cons item rest ih =>
      intro σ observer state
      have hitem := h item (List.mem_cons_self ..) σ observer state
      have hrest := ih fun other hother => h other (List.mem_cons_of_mem _ hother)
      rw [anyOf, List.anyM, StateT.run_bind, hitem, List.any_cons, upTo_cons, List.flatMap_cons,
        Observer.follow_append]
      cases (run item).answer with
      | true => rfl
      | false => exact hrest σ observer _

theorem reports_anyOrEmpty (h : ∀ item ∈ items, (run item).Passive) :
    (anyOrEmpty items run).Reports (items.isEmpty || items.any fun item => (run item).answer)
      ((upTo (fun item => (run item).answer) items).flatMap fun item => (run item).calls) := by
  cases items with
  | nil => exact reports_silent true
  | cons item rest => exact reports_anyOf h

end Lists

end Watched

end Condition

end FeatureFlags

/-!
# The connection switch

A switch that is active or stopped, and observers of it.  Every change of the switch is counted;
an observer has something new to see while the count exceeds the one it saw last.
-/

namespace FeatureFlags

inductive ConnectionState
  | active
  | stopped
deriving DecidableEq, Repr

/-- The switch, which is stopped at first. -/
structure Connection where
  state : ConnectionState := .stopped
  /-- The number of changes so far. -/
  changes : Nat := 0
deriving DecidableEq, Repr

/-- What an observer of a switch has seen. -/
structure ConnectionObserver where
  seen : Nat
deriving DecidableEq, Repr

namespace Connection

/-- Turns the switch to a state and tells whether that changed anything. -/
def turn (connection : Connection) (state : ConnectionState) : Bool × Connection :=
  if connection.state = state then (false, connection)
  else (true, { state, changes := connection.changes + 1 })

def start (connection : Connection) : Bool × Connection := connection.turn .active

def stop (connection : Connection) : Bool × Connection := connection.turn .stopped

theorem state_turn (connection : Connection) (state : ConnectionState) :
    (connection.turn state).2.state = state := by
  unfold turn
  split
  · assumption
  · rfl

def isActive (connection : Connection) : Bool := connection.state = .active

/-- An observer that has seen the present state. -/
def subscribe (connection : Connection) : ConnectionObserver := ⟨connection.changes⟩

end Connection

namespace ConnectionObserver

/-- Whether the switch has changed since the observer looked last. -/
def hasChanged (observer : ConnectionObserver) (connection : Connection) : Bool :=
  observer.seen ≠ connection.changes

/-- The observer after it has seen the present state. -/
def look (_observer : ConnectionObserver) (connection : Connection) : ConnectionObserver :=
  ⟨connection.changes⟩

end ConnectionObserver

end FeatureFlags

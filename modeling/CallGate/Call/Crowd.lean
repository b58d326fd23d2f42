import CallGate.Call.Flight
import CallGate.Interleaving

/-!
# Crowds

A call does not know how many tasks carry it. Any number of workers may try to claim it and any
number of its tasks may be dropped, at any moment: whoever comes too late finds the owner taken
and goes away. A *crowd* is a call with several tasks about it, each at a point of its own life.

A move is an action on the flight that the call makes with one of the tasks, so what the sections
do is said in `Flight.step?` only, and a flight is a crowd of one task.

* `Crowd.step?` — one move, or nothing when it cannot happen here.
* `Crowd.run?` — an interleaving of moves.
-/

namespace CallGate

/-- A **crowd**: a call with its owner lock, several tasks and the cancels that were begun. -/
structure Crowd (ω α : Type) where
  call : Call ω α := {}
  lock : Option (Tenure ω α) := none
  tasks : List TaskPhase
  cancels : List Cancel := []
deriving DecidableEq, Repr

/-- A **move**: an action, and the position of the task it is an action with. Which task that is
makes no difference to the actions that are no task's. -/
structure Crowd.Move (ω : Type) where
  position : Nat
  action : Action ω

namespace Crowd

variable {ω α : Type}

/-- A new call with some tasks, none of which has begun. -/
def queued (tasks : Nat) : Crowd ω α := { tasks := List.replicate tasks .queued }

/-- The call in **flight** with one of the tasks. -/
def flight (c : Crowd ω α) (task : TaskPhase) : Flight ω α := ⟨c.call, c.lock, task, c.cancels⟩

/-- The crowd after the flight of one of its tasks has moved. -/
def withFlight (c : Crowd ω α) (position : Nat) (f : Flight ω α) : Crowd ω α where
  call := f.call
  lock := f.lock
  tasks := c.tasks.set position f.task
  cancels := f.cancels

/-- One **step**. -/
def step? [BEq ω] (convert : Response → α) (c : Crowd ω α) (m : Move ω) :
    Option (Crowd ω α × List (Effect ω)) :=
  c.tasks[m.position]?.bind fun task =>
    ((c.flight task).step? convert m.action).map fun r => (c.withFlight m.position r.1, r.2)

/-- An **interleaving** of moves, with everything that happened on the way. -/
def run? [BEq ω] (convert : Response → α) (c : Crowd ω α) (moves : List (Move ω)) :
    Option (Crowd ω α × List (Effect ω)) :=
  Interleaving.run? (step? convert) c moves

end Crowd

/-- The crowd of one task that a flight is. -/
def Flight.crowd {ω α : Type} (f : Flight ω α) : Crowd ω α := ⟨f.call, f.lock, [f.task], f.cancels⟩

end CallGate

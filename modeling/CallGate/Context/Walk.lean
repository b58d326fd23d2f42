import CallGate.Context

/-!
# Walks through nested contexts

A walk enters a number of nested contexts and leaves them again, noting at every depth, on
the way in and on the way out, what the context says. At one depth it may raise the
interrupt flag. `Walk.observe` is the walk, whatever it looks at and whatever it does in the
innermost context; `Walk.run` takes notes, which show that the marker, the identity and the
request belong to the context while the flag is shared.
-/

namespace CallGate

/-- What is noted at one point of a walk. -/
structure Note where
  depth : Nat
  inwards : Bool
  inside : Bool
  interrupted : Bool
  raised : Bool
  user : Option String
  sameRequest : Bool
deriving DecidableEq, Repr

/-- A **walk** into nested contexts and back, which may raise the flag at one depth. -/
structure Walk where
  identity : Option Identity
  levels : Nat
  raiseAt : Option Nat
  raisedBefore : Bool
deriving DecidableEq, Repr

namespace Walk

/-- The note of a context at a depth. -/
def note (outermost : ExecutionContext) (inwards : Bool) (depth : Nat) (c : ExecutionContext)
    (s : Signals) : Note where
  depth := depth
  inwards := inwards
  inside := c.inside
  interrupted := c.isInterrupted s
  raised := s.isRaised outermost.interrupt
  user := c.user
  sameRequest := c.request == outermost.request

/-- The outermost context of a walk and the flags at its start. -/
def start (w : Walk) (signals : Signals) (request : RequestId) : ExecutionContext × Signals :=
  let (interrupt, signals) := signals.fresh
  (.runningAs w.identity interrupt request,
    if w.raisedBefore then signals.raise interrupt else signals)

section Observe

variable {α β : Type}

/-- On the way **in**, a walk looks at the context and then raises the flag, if this is the
depth for it. -/
def enter (w : Walk) (look : Bool → Nat → ExecutionContext → Signals → β) (depth : Nat)
    (c : ExecutionContext) (s : Signals × List β) : Signals × List β :=
  (if w.raiseAt = some depth then s.1.raise c.interrupt else s.1,
    s.2 ++ [look true depth c s.1])

/-- On the way **out**, it only looks. -/
def leave (look : Bool → Nat → ExecutionContext → Signals → β) (depth : Nat)
    (c : ExecutionContext) (s : Signals × List β) : Signals × List β :=
  (s.1, s.2 ++ [look false depth c s.1])

/-- Runs a walk that **looks** at the contexts, with an action in the innermost and something
that each level adds: what the outermost level returns, the flags afterwards, and what was
seen, in order. -/
def observe (w : Walk) (look : ExecutionContext → Bool → Nat → ExecutionContext → Signals → β)
    (action : ExecutionContext → Signals → α) (outwards : α → α) (signals : Signals)
    (request : RequestId) : α × Signals × List β :=
  let (outermost, signals) := w.start signals request
  ExecutionContext.descend (w.enter (look outermost)) (leave (look outermost))
    (fun c s => (action c s.1, s)) outwards w.levels 0 outermost (signals, [])

end Observe

/-- **Runs a walk**: the number of levels that handed the result on, the flags afterwards, and
the notes in order. -/
def run (w : Walk) (signals : Signals) (request : RequestId) : Nat × Signals × List Note :=
  w.observe note (fun _ _ => 0) (· + 1) signals request

end Walk

end CallGate

import CallGate.Identity

/-!
# Contexts

Two values travel with a call and neither lives anywhere else. A `CallContext` is what the
caller says about itself: whether it stands inside the trusted boundary. An `ExecutionContext`
is what the controller sees: the identity the call runs under, the boundary marker, the id
of the request, and the interrupt flag.

Going inside the boundary makes a new context and changes none, so the marker is back as
soon as the inner action is over. Interrupt flags are the one thing shared: a context holds
the number of a flag, and the flags themselves are kept in `Signals`, where raising one is
seen by every context that holds its number, and by no other.

* `CallContext.elevated`, `ExecutionContext.elevated` — one level further inside.
* `ExecutionContext.descend` — an action nested so many levels deep.
* `Signals.fresh`, `Signals.raise`, `Signals.isRaised`.
-/

namespace CallGate

/-! ### Interrupt flags -/

/-- The number of an **interrupt flag**. -/
structure Interrupt where
  number : Nat
deriving DecidableEq, Repr

/-- The **flags** handed out so far and which of them are raised. A raised flag stays
raised. -/
structure Signals where
  handedOut : Nat := 0
  raised : List Interrupt := []
deriving DecidableEq, Repr

namespace Signals

/-- A flag that nobody holds yet, not raised. -/
def fresh (s : Signals) : Interrupt × Signals :=
  (⟨s.handedOut⟩, { s with handedOut := s.handedOut + 1 })

/-- Raises a flag. -/
def raise (s : Signals) (i : Interrupt) : Signals :=
  if i ∈ s.raised then s else { s with raised := i :: s.raised }

/-- Whether a flag is raised. -/
def isRaised (s : Signals) (i : Interrupt) : Bool := s.raised.contains i

/-- Raising a flag raises no other. -/
theorem isRaised_raise (s : Signals) (flag raised : Interrupt) :
    (s.raise raised).isRaised flag = true ↔ s.isRaised flag = true ∨ flag = raised := by
  unfold raise
  split
  next hraised =>
    refine ⟨.inl, fun h => h.elim id ?_⟩
    rintro rfl
    exact List.contains_iff_mem.mpr hraised
  next =>
    rw [isRaised, isRaised, List.contains_cons, Bool.or_eq_true, beq_iff_eq, or_comm]

end Signals

/-! ### The caller's context -/

/-- The **caller's context**. -/
structure CallContext where
  inside : Bool := false
deriving DecidableEq, Repr

namespace CallContext

/-- A caller outside the trusted boundary. -/
def external : CallContext := ⟨false⟩

/-- A caller inside it. -/
def trusted : CallContext := ⟨true⟩

/-- The context of an action that runs inside the boundary. -/
def elevated (_ : CallContext) : CallContext := ⟨true⟩

end CallContext

/-! ### The controller's context -/

/-- The number of a **request**; every call of the controller has one of its own. -/
structure RequestId where
  number : Nat
deriving DecidableEq, Repr

/-- The **controller's context**. -/
structure ExecutionContext where
  identity : Option Identity
  inside : Bool
  interrupt : Interrupt
  request : RequestId
deriving DecidableEq, Repr

namespace ExecutionContext

/-- The context of a call that runs as somebody, outside the boundary. -/
def runningAs (identity : Option Identity) (interrupt : Interrupt) (request : RequestId) :
    ExecutionContext :=
  ⟨identity, false, interrupt, request⟩

/-- The context of an action that runs inside the boundary. -/
def elevated (c : ExecutionContext) : ExecutionContext := { c with inside := true }

/-- The context a call starts in: inside the boundary if the caller was. -/
def entered (c : ExecutionContext) (inside : Bool) : ExecutionContext :=
  if inside then c.elevated else c

/-- Whether the call has been interrupted. -/
def isInterrupted (c : ExecutionContext) (s : Signals) : Bool := s.isRaised c.interrupt

/-- The name of the identity, if there is one. -/
def user (c : ExecutionContext) : Option String := c.identity.map Identity.name

/-- Runs an action **nested** so many levels inside the boundary. At every depth `before`
sees the context on the way in and `after` on the way out; at the innermost the action runs,
and each level adds to what the level below it returned. -/
def descend {σ α : Type} (before after : Nat → ExecutionContext → σ → σ)
    (action : ExecutionContext → σ → α × σ) (outwards : α → α) :
    Nat → Nat → ExecutionContext → σ → α × σ
  | 0, depth, c, s =>
    let inner := action c (before depth c s)
    (inner.1, after depth c inner.2)
  | levels + 1, depth, c, s =>
    let inner :=
      descend before after action outwards levels (depth + 1) c.elevated (before depth c s)
    (outwards inner.1, after depth c inner.2)

end ExecutionContext

end CallGate

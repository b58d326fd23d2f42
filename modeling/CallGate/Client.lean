import CallGate.Controller

/-!
# Clients

A client runs operations on the controller for a caller. What the caller is — its identity
and whether it stands inside the trusted boundary — is captured on the caller's side when a
call is made, and travels with the call as a `Dispatch`; a worker that takes the call up
later sees what was captured and nothing newer.

An ordinary client runs a call in the caller's own context. A super-user client runs it as
if the caller stood inside the boundary; the caller's context stays what it was.

* `Client.submit` — an asynchronous call, which needs an executor.
* `Client.prepare`, `Client.call` — a synchronous call.
* `Dispatch.invocation` — what the controller is given.
-/

namespace CallGate

/-- A **client**. -/
structure Client where
  superUser : Bool
  /-- Whether there is an executor to run asynchronous calls. -/
  hasExecutor : Bool
deriving DecidableEq, Repr

/-- The **super-user client** around a client. -/
def Client.elevated (c : Client) : Client := { c with superUser := true }

/-- A **dispatch**: an operation with what was captured on the caller's side. -/
structure Dispatch where
  identity : Option Identity
  inside : Bool
  operation : Operation
deriving DecidableEq, Repr

namespace Dispatch

/-- The event of a submission. -/
def submittedEvent (d : Dispatch) : Log.Event :=
  ⟨.debug, Log.client, "submitting asynchronous call",
    [("operation", .quoted (d.operation.name.getD "<unnamed>")),
     ("user", .quoted ((d.identity.map Identity.name).getD "<anonymous>")),
     ("in_vm", .flag d.inside)]⟩

/-- The context of the controller. -/
def context (d : Dispatch) (interrupt : Interrupt) (request : RequestId) : ExecutionContext :=
  (ExecutionContext.runningAs d.identity interrupt request).entered d.inside

/-- The context has what was captured, and the numbers of the call. -/
theorem context_eq (d : Dispatch) (interrupt : Interrupt) (request : RequestId) :
    d.context interrupt request = ⟨d.identity, d.inside, interrupt, request⟩ := by
  cases hinside : d.inside <;>
    simp [context, ExecutionContext.entered, ExecutionContext.elevated,
      ExecutionContext.runningAs, hinside]

/-- The **invocation** of an asynchronous call, on a copy of the operation. -/
def invocation (d : Dispatch) (interrupt : Interrupt) (request : RequestId) : Invocation where
  context := d.context interrupt request
  operation := d.operation.requestCopy
  control := .commit

/-- The **invocation** of a synchronous call, on the operation itself. -/
def directInvocation (d : Dispatch) (interrupt : Interrupt) (request : RequestId) :
    Invocation where
  context := d.context interrupt request
  operation := d.operation
  control := .commit

/-- What was captured decides the invocation, whichever way the call is made. -/
theorem directInvocation_eq (d : Dispatch) (interrupt : Interrupt) (request : RequestId) :
    d.directInvocation interrupt request = d.invocation interrupt request := by
  rw [directInvocation, invocation, Operation.requestCopy_eq]

end Dispatch

namespace Client

/-- The context in which a client runs the calls of a caller. -/
def contextFor (c : Client) (caller : CallContext) : CallContext :=
  if c.superUser then caller.elevated else caller

/-- What is **captured** when a call is made; the supplier is asked once. -/
def capture {σ : Type} (c : Client) (supplier : Supplier σ) (caller : CallContext)
    (operation : Operation) (s : σ) : Dispatch × σ :=
  let answer := supplier.read s
  (⟨answer.1, (c.contextFor caller).inside, operation⟩, answer.2)

/-- An **asynchronous call** is captured, logged and handed over; without an executor it is
refused before anybody is asked anything. -/
def submit {σ : Type} (c : Client) (supplier : Supplier σ) (caller : CallContext)
    (operation : Operation) (s : σ) : Except Fault (Dispatch × List Log.Event) × σ :=
  if c.hasExecutor then
    let (d, s) := c.capture supplier caller operation s
    (.ok (d, [d.submittedEvent]), s)
  else (.error .noExecutor, s)

/-- A **synchronous call** is captured and runs at once, with a flag that nobody else has. -/
def prepare {σ : Type} (c : Client) (supplier : Supplier σ) (caller : CallContext)
    (operation : Operation) (interrupt : Interrupt) (request : RequestId) (s : σ) :
    Invocation × σ :=
  let (d, s) := c.capture supplier caller operation s
  (d.directInvocation interrupt request, s)

/-- A synchronous call **answers** what the controller answers; a panic goes through to the
caller. -/
def call {σ : Type} (c : Client) (controller : Controller) (supplier : Supplier σ)
    (caller : CallContext) (operation : Operation) (interrupt : Interrupt)
    (request : RequestId) (s : σ) : Answer × σ :=
  let (invocation, s) := c.prepare supplier caller operation interrupt request s
  (controller.execute invocation false, s)

end Client

/-! ### The two shapes of an asynchronous result -/

/-- The **shape** a caller asked for: the document alone, or the whole response. -/
inductive Shape where
  | document
  | full
deriving DecidableEq, Repr

/-- A **reply** in one of the shapes. -/
inductive Reply where
  | document (node : Json)
  | full (response : Response)
deriving DecidableEq, Repr

/-- The reply of a shape. A document is taken from the response after its streams were let
go, because nobody will ask for them. -/
def Shape.convert : Shape → Response → Reply
  | .document, response => .document response.closed.node
  | .full, response => .full response

end CallGate

import CallGate.Fault
import CallGate.Operation

/-!
# Responses and outcomes

The controller answers an operation with a document and perhaps with streams, each under
an id of its own. What became of the operation stands in the document, under `outcome`.

The outcome of a *call* is something else: whether it was completed with a response, failed
with a fault, or was cancelled. A document that reports its operation as cancelled makes
the call cancelled; one that reports a failure is a completed call.

* `Response.success`, `Response.failed`, `Response.cancelled` — the usual documents.
* `Response.outcome?`, `Response.stream?`, `Response.closed`.
* `CallOutcome`, `CallOutcome.result`.
-/

namespace CallGate

/-! ### Documents -/

/-- What became of an **operation**. -/
inductive Outcome where
  | success
  | failed
  | cancelled
deriving DecidableEq, Repr

namespace Outcome

/-- The name of an outcome in a document. -/
def name : Outcome → String
  | success => "success"
  | failed => "failed"
  | cancelled => "cancelled"

/-- The outcome of a name. -/
def ofName? : String → Option Outcome
  | "success" => some success
  | "failed" => some failed
  | "cancelled" => some cancelled
  | _ => none

end Outcome

/-- A **stream** of a response. -/
structure ResponseStream where
  id : String
  mimeType : String
  bytes : Bytes
deriving DecidableEq, Repr

/-- A **response**. -/
structure Response where
  node : Json
  streams : List ResponseStream := []
deriving DecidableEq, Repr

namespace Response

/-- The key of the outcome in a document. -/
def outcomeKey : String := "outcome"

/-- The document of a success. -/
def success (result : Json) : Response :=
  ⟨.object [(outcomeKey, .string Outcome.success.name), ("result", result)], []⟩

/-- The document of a failure. -/
def failed (description : String) : Response :=
  ⟨.object
    [("failure-description", .string description),
     (outcomeKey, .string Outcome.failed.name)], []⟩

/-- The document of a cancelled operation. -/
def cancelled : Response := ⟨.object [(outcomeKey, .string Outcome.cancelled.name)], []⟩

/-- What became of the operation, if the document says so in a known word. -/
def outcome? (r : Response) : Option Outcome :=
  ((r.node.member? outcomeKey).bind Json.text?).bind Outcome.ofName?

/-- Whether the document reports the operation as cancelled. -/
def isCancelled (r : Response) : Bool := r.outcome? == some .cancelled

/-- The stream of an id, compared character for character. -/
def stream? (r : Response) (id : String) : Option ResponseStream :=
  r.streams.find? fun s => s.id == id

/-- The response with its streams let go. -/
def closed (r : Response) : Response := { r with streams := [] }

end Response

/-! ### Calls -/

/-- The **status** of a call as its future shows it. -/
inductive Status where
  | waiting
  | complete
  | failed
  | cancelled
deriving DecidableEq, Repr

/-- The name of a status. -/
def Status.name : Status → String
  | .waiting => "waiting"
  | .complete => "complete"
  | .failed => "failed"
  | .cancelled => "cancelled"

/-- How a **call** ended. -/
inductive CallOutcome (α : Type) where
  | completed (value : α)
  | failed (fault : Fault)
  | cancelled
deriving DecidableEq, Repr

namespace CallOutcome

variable {α : Type}

/-- The status of an ended call. -/
def status : CallOutcome α → Status
  | completed _ => .complete
  | failed _ => .failed
  | cancelled => .cancelled

/-- Whether the call was cancelled. -/
def isCancelled : CallOutcome α → Bool
  | cancelled => true
  | _ => false

/-- An ended call does not show the status of one that waits. -/
theorem status_ne_waiting (o : CallOutcome α) : o.status ≠ .waiting := by
  cases o <;> simp [status]

/-- Only a cancelled call shows the status of one. -/
theorem status_beq_cancelled (o : CallOutcome α) : (o.status == .cancelled) = o.isCancelled := by
  cases o <;> rfl

/-- The outcome of a cancelled call is the cancelled one. -/
theorem isCancelled_iff {o : CallOutcome α} : o.isCancelled = true ↔ o = cancelled := by
  cases o <;> simp [isCancelled]

/-- The outcome as a **result**; here, and only here, cancellation is a fault. -/
def result : CallOutcome α → Except Fault α
  | completed value => .ok value
  | failed fault => .error fault
  | cancelled => .error .cancelled

end CallOutcome

end CallGate

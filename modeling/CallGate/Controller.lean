import CallGate.Context
import CallGate.Log.Event
import CallGate.Response

/-!
# Controllers

The controller is what executes operations; it lives outside this library, and only what it
is given and what it gives back are fixed here. It is invoked with a context, an operation
and a word on the transaction, may report progress, and ends by returning a response, by
failing with a fault, or by panicking.

* `Controller` — any answer to an invocation.
* `Ending.result` — how a panic becomes a fault where nobody may be torn down by it.
* `MessageHandler` — what becomes of the reports.
-/

namespace CallGate

/-! ### Reports -/

/-- How serious a report is. -/
inductive Severity where
  | info
  | warn
  | error
deriving DecidableEq, Repr

/-- The name of a severity. -/
def Severity.name : Severity → String
  | .info => "info"
  | .warn => "warn"
  | .error => "error"

/-- The level at which a report is logged. -/
def Severity.level : Severity → Log.Level
  | .info => .info
  | .warn => .warn
  | .error => .error

/-- A **report** of progress. -/
structure Report where
  severity : Severity
  text : String
deriving DecidableEq, Repr

/-- A **message handler** turns a report into events. -/
structure MessageHandler where
  handle : Report → List Log.Event

/-- Drops every report. -/
def MessageHandler.discarding : MessageHandler := ⟨fun _ => []⟩

/-- Logs every report. -/
def MessageHandler.logging : MessageHandler :=
  ⟨fun r => [.plain r.severity.level Log.controller r.text]⟩

/-! ### Invocations -/

/-- What becomes of the transaction when the operation has run. Clients always commit. -/
inductive TransactionControl where
  | commit
  | rollback
deriving DecidableEq, Repr

/-- The name of a transaction control. -/
def TransactionControl.name : TransactionControl → String
  | .commit => "commit"
  | .rollback => "rollback"

/-- An **invocation** of the controller. -/
structure Invocation where
  context : ExecutionContext
  operation : Operation
  control : TransactionControl
deriving DecidableEq, Repr

/-- What a **panic** carried: a text, or something that is none. -/
inductive Panic where
  | text (message : String)
  | other
deriving DecidableEq, Repr

/-- The message of a panic. -/
def Panic.message : Panic → String
  | .text message => message
  | .other => "controller panicked"

/-- How a controller's run **ends**. -/
inductive Ending where
  | returned (response : Response)
  | failed (fault : Fault)
  | panicked (panic : Panic)
deriving DecidableEq, Repr

/-- The **result** of a run on a worker: a panic is a failed execution there. -/
def Ending.result : Ending → Except Fault Response
  | .returned response => .ok response
  | .failed fault => .error fault
  | .panicked panic => .error (.execution "panic" panic.message)

/-- An **answer** of the controller. -/
structure Answer where
  reports : List Report
  ending : Ending
deriving DecidableEq, Repr

/-- A **controller** answers an invocation, knowing whether it has been interrupted. -/
structure Controller where
  execute : Invocation → Bool → Answer

end CallGate

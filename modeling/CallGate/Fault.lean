import CallGate.Json.Record

/-!
# Faults

Everything that can go wrong in the gate is a `Fault`: a cause with the data that explains
it. Transports match on its `code`, callers decide by its `kind`, people read its
`message`. Cancellation is the end of a call and not a fault; `Fault.cancelled` only stands
for it where a caller asks for a result.

* `Fault.code`, `Fault.kind`, `Fault.message`, `Fault.isRetryable`.
* `Fault.toJson`, `Fault.ofTree?` — the written form: an object tagged by `type`.
-/

namespace CallGate

/-- The **kinds** of faults: what the caller has to do about one. -/
inductive FaultKind where
  | configuration
  | permission
  | unsupportedRequest
  | execution
  | security
  | cancelled
deriving DecidableEq, Repr

/-- A **fault**. -/
inductive Fault where
  /-- The client was built without an executor. -/
  | noExecutor
  /-- The executor dropped the task before it ran. -/
  | executorRejected
  | permissionDenied (permission : String)
  | unsupportedCallback (kind : String)
  | execution (code message : String)
  | realmUnavailable (message : String)
  | authenticationFailed (message : String)
  | cancelled
deriving DecidableEq, Repr

/-! ### Kinds -/

/-- The name of a kind. -/
def FaultKind.name : FaultKind → String
  | .configuration => "configuration"
  | .permission => "permission"
  | .unsupportedRequest => "unsupported_request"
  | .execution => "execution"
  | .security => "security"
  | .cancelled => "cancelled"

/-- All kinds. -/
def FaultKind.all : List FaultKind :=
  [.configuration, .permission, .unsupportedRequest, .execution, .security, .cancelled]

/-- Reads a kind. -/
def FaultKind.ofTree? (t : Tree) : Option FaultKind := t.choice? name all

namespace Fault

/-! ### What a fault says -/

/-- The tag of a fault in its written form. -/
def tag : Fault → String
  | noExecutor => "no_async_executor"
  | executorRejected => "executor_rejected"
  | permissionDenied _ => "permission_denied"
  | unsupportedCallback _ => "unsupported_callback"
  | execution _ _ => "execution"
  | realmUnavailable _ => "realm_unavailable"
  | authenticationFailed _ => "authentication_failed"
  | cancelled => "cancelled"

/-- The **code** that transports match on: the controller's own for a failed execution,
else the tag. -/
def code : Fault → String
  | execution code _ => code
  | f => f.tag

/-- The **kind** of a fault. -/
def kind : Fault → FaultKind
  | noExecutor | executorRejected => .configuration
  | permissionDenied _ => .permission
  | unsupportedCallback _ => .unsupportedRequest
  | execution _ _ => .execution
  | realmUnavailable _ | authenticationFailed _ => .security
  | cancelled => .cancelled

/-- The **message** for people. -/
def message : Fault → String
  | noExecutor => "no asynchronous executor available"
  | executorRejected => "asynchronous executor rejected the call"
  | permissionDenied permission => "permission denied: " ++ permission
  | unsupportedCallback kind => "unsupported callback: " ++ kind
  | execution code message => code ++ ": " ++ message
  | realmUnavailable message => "security realm unavailable: " ++ message
  | authenticationFailed message => "authentication failed: " ++ message
  | cancelled => "operation cancelled"

/-- Only a realm that is out of reach is worth the same request again. -/
def isRetryable : Fault → Bool
  | realmUnavailable _ => true
  | _ => false

/-- The fault of a failure that nobody classified: an execution failure whose text is that
of the outermost explanation. -/
def unclassified (cause : String) (explanations : List String) : Fault :=
  execution "exec_error" (explanations.getLast?.getD cause)

/-! ### The written form -/

/-- The fields of a fault besides its tag. -/
def fields : Fault → List (String × String)
  | permissionDenied permission => [("permission", permission)]
  | unsupportedCallback kind => [("kind", kind)]
  | execution code message => [("code", code), ("message", message)]
  | realmUnavailable message => [("message", message)]
  | authenticationFailed message => [("message", message)]
  | noExecutor | executorRejected | cancelled => []

/-- The object of a fault: its tag under `type`, then its fields. -/
def toJson (f : Fault) : Json :=
  .object (("type", .string f.tag) :: f.fields.map fun p => (p.1, .string p.2))

/-- The names of the fields that belong to a tag; none for an unknown tag. -/
def fieldNames? (tag : String) : Option (List String) :=
  match tag with
  | "no_async_executor" | "executor_rejected" | "cancelled" => some []
  | "permission_denied" => some ["permission"]
  | "unsupported_callback" => some ["kind"]
  | "execution" => some ["code", "message"]
  | "realm_unavailable" | "authentication_failed" => some ["message"]
  | _ => none

/-- The fault of a tag and the texts of its fields. -/
def ofFields? : String → List String → Option Fault
  | "no_async_executor", [] => some noExecutor
  | "executor_rejected", [] => some executorRejected
  | "permission_denied", [permission] => some (permissionDenied permission)
  | "unsupported_callback", [kind] => some (unsupportedCallback kind)
  | "execution", [code, message] => some (execution code message)
  | "realm_unavailable", [message] => some (realmUnavailable message)
  | "authentication_failed", [message] => some (authenticationFailed message)
  | "cancelled", [] => some cancelled
  | _, _ => none

/-- The member of a name in a list of members, given exactly once, when it is a text. -/
def uniqueText? (members : List (String × Json)) (name : String) : Option String :=
  match members.filter fun m => m.1 == name with
  | [(_, .string s)] => some s
  | _ => none

/-- Reads a **fault**: an object whose `type` may stand anywhere, or the array of the tag
and exactly its fields. The tag decides which members are fields, so all members are
evaluated before any is chosen, and the limits of values hold for the others too. -/
def ofTree? (t : Tree) : Option Fault :=
  match t.value? with
  | some (.object members) => do
    let tag ← uniqueText? members "type"
    let names ← fieldNames? tag
    ofFields? tag (← names.mapM (uniqueText? members))
  | some (.array (.string tag :: items)) => do
    ofFields? tag (← items.mapM Json.text?)
  | _ => none

end Fault

end CallGate

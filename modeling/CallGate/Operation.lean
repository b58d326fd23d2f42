import CallGate.Json.Basic

/-!
# Operations

A management request: a document that says what to do, and perhaps streams of bytes that
go with it. The controller is handed a copy; copying loses nothing.
-/

namespace CallGate

/-- A run of **bytes**. -/
abbrev Bytes := List UInt8

/-- The **attachments** of an operation. -/
structure Attachments where
  streams : List Bytes := []
  /-- Close the streams once the operation has run. -/
  autoClose : Bool := false
deriving DecidableEq, Repr

/-- An **operation**. An operation without attachments differs from one with no streams. -/
structure Operation where
  node : Json
  attachments : Option Attachments := none
deriving DecidableEq, Repr

namespace Operation

/-- The streams, none when nothing is attached. -/
def streams (o : Operation) : List Bytes :=
  match o.attachments with
  | some a => a.streams
  | none => []

/-- Whether the streams are to be closed. -/
def autoClose (o : Operation) : Bool :=
  match o.attachments with
  | some a => a.autoClose
  | none => false

/-- The **copy** that is handed to the controller. -/
def requestCopy (o : Operation) : Operation where
  node := o.node
  attachments := o.attachments.map fun a => ⟨a.streams, a.autoClose⟩

/-- Copying **loses nothing**. -/
@[simp]
theorem requestCopy_eq (o : Operation) : o.requestCopy = o := by
  cases o with
  | mk node attachments => cases attachments <;> rfl

/-- The **name** of an operation: the text under `operation` in its document. -/
def name (o : Operation) : Option String := (o.node.member? "operation").bind Json.text?

end Operation

end CallGate

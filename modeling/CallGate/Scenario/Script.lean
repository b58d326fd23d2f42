import CallGate.Client
import CallGate.Text.Uuid

/-!
# Scripted controllers

In a scenario every call brings a script along that says how the controller behaves while
it executes that call: what it reports, whether it looks at an elevated context, whether it
stops at a gate, and how it ends.
-/

namespace CallGate.Scenario

/-- What a script **responds** if it neither fails nor panics. -/
inductive ResponseScript where
  | success (result : Json)
  | failed (description : String)
  | cancelled
  | respond (node : Json) (streams : List (String × Bytes))
  /-- A success with the document of the operation. -/
  | echo
deriving DecidableEq, Repr

/-- The id of the stream of a serial number. It has a letter in it, so that upper and lower
case differ. -/
def streamId (serial : Nat) : String := Text.uuid4 ((1 <<< 61) + serial)

/-- Streams with ids from a serial number on. -/
def numberStreams : Nat → List (String × Bytes) → List ResponseStream
  | _, [] => []
  | serial, (mimeType, bytes) :: rest =>
    ⟨streamId serial, mimeType, bytes⟩ :: numberStreams (serial + 1) rest

namespace ResponseScript

/-- How many streams a response has. -/
def streamCount : ResponseScript → Nat
  | respond _ streams => streams.length
  | _ => 0

/-- A serial number from which on the ids of a response are none of the given texts. A text
is the id of one stream at most, so it spoils at most one of as many blocks of numbers as
there are texts, and one block more. -/
def unseenSerial (s : ResponseScript) (texts : List String) : Nat :=
  let ids (block : Nat) : List String :=
    (List.range s.streamCount).map fun i => streamId (block * s.streamCount + i)
  let free := (List.range (texts.length + 1)).find? fun block =>
    (ids block).all fun id => !texts.contains id
  free.getD 0 * s.streamCount

/-- The response to an operation, its streams numbered from a serial number on. -/
def response (s : ResponseScript) (node : Json) (serial : Nat) : Response :=
  match s with
  | success result => .success result
  | failed description => .failed description
  | cancelled => .cancelled
  | respond node streams => ⟨node, numberStreams serial streams⟩
  | echo => .success node

end ResponseScript

/-- A **script**. A fault goes before a panic, and both before the response. -/
structure Script where
  reports : List Report := []
  elevate : Bool := false
  gate : Bool := false
  fault : Option Fault := none
  panic : Option Panic := none
  response : ResponseScript := .echo
deriving DecidableEq, Repr

namespace Script

/-- How the script ends for an operation. -/
def ending (s : Script) (operation : Operation) (serial : Nat) : Ending :=
  match s.fault, s.panic with
  | some fault, _ => .failed fault
  | none, some panic => .panicked panic
  | none, none => .returned (s.response.response operation.node serial)

/-- The script as a controller. -/
def controller (s : Script) (serial : Nat) : Controller :=
  ⟨fun invocation _ => ⟨s.reports, s.ending invocation.operation serial⟩⟩

end Script

/-- What a controller **observed**. -/
inductive Observation where
  /-- What it was given, and on which thread. -/
  | entered (call thread : String) (interrupted : Bool) (invocation : Invocation)
  /-- The elevated context, and the marker of the outer one afterwards. -/
  | elevated (call : String) (inside sameRequest : Bool) (user : Option String) (outer : Bool)
  /-- The interrupt flag after the gate. -/
  | leaving (call : String) (interrupted : Bool)
deriving DecidableEq, Repr

/-- The observations of a call that has just begun. -/
def Script.observations (s : Script) (call thread : String) (invocation : Invocation)
    (signals : Signals) : List Observation :=
  let context := invocation.context
  let inner := context.elevated
  .entered call thread (context.isInterrupted signals) invocation ::
    (if s.elevate then
      [.elevated call inner.inside (inner.request == context.request) inner.user context.inside]
    else [])

end CallGate.Scenario

import CallGate.Call.Watch
import CallGate.Scenario.World

/-!
# The steps of a scenario

A scenario is a list of steps over a world. Every step has a result and a record of what
it set in motion: the controller's observations, the reports, the log and how often the
supplier was asked. A step is over only when nothing can move without another one.

* `Step.run` — one step.
* `run` — a list of steps, each with its result, its record and the world after it.
-/

namespace CallGate.Scenario

/-- A **step**. -/
inductive Step where
  | establish (identity : Identity)
  | clear
  | login (provider : Provider) (request : LoginRequest)
  | sync (spec : CallSpec)
  | submit (id : String) (shape : Shape) (spec : CallSpec)
  | runTask (id : Option String)
  | runAllTasks
  | dropTask (id : Option String)
  | startTask (id : Option String)
  | release (id : String)
  | probe (id : String)
  | status (id : String)
  | wait (id : String) (milliseconds : UInt64)
  | get (id : String)
  | cancel (id : String) (interrupt : Bool) (helper : Option String)
  | getBy (id : String) (helper : Option String)
  | join (helper : Option String)
  | poll (id waker : String)
  | wakes
  | shutdown
  | close

/-- The **result** of a step. -/
inductive Result where
  | nothing
  | cleared (identity : Option Identity)
  | loggedIn (result : Except Fault Identity)
  | ended (ending : Ending) (caller : CallContext)
  | submitted (caller : CallContext)
  | refused (fault : Fault)
  | ran (id : String)
  | ranAll (ids : List String)
  | dropped (id : String)
  | started (id : String) (blocked : Bool)
  | nothingQueued
  | released (id : String)
  | notBlocked
  | interrupted (flag : Bool)
  | neverRan
  | status (status : Status)
  | waited (status : Status)
  | outcome (outcome : CallOutcome Reply)
  | waiting
  | answered (cancelled : Bool)
  | blocked
  | noSuchHelper
  | pending
  | woken (counts : List (String × Nat))
  | shutDown
  | noPool
  | noSuchCall

namespace World

/-! ### Calls -/

/-- The client of a call. -/
def clientOf (w : World) (spec : CallSpec) : Client := ⟨spec.superUser, w.executor != .absent⟩

/-- A synchronous call, on the caller's thread. -/
def sync (w : World) (spec : CallSpec) : Result × World :=
  let script := spec.script
  let (caller, w) := w.arrive spec.caller
  let (firstStream, w) := w.numberStreams script
  let position := w.direct.length
  let (occurrences, w) :=
    w.move (.call (w.clientOf spec) caller spec.operation spec.reception.handler)
  match occurrences.findSome? Occurrence.invocation? with
  | none => (.nothing, w)
  | some invocation =>
    let interrupted := invocation.context.isInterrupted w.signals
    let answer := (script.controller firstStream).execute invocation interrupted
    let w := w.observe (script.observations "sync" Thread.caller.name invocation w.signals)
    let w := w.deliver (.direct position) spec.reception answer.reports
    let (_, w) := w.move (.answer position answer.ending)
    (.ended answer.ending (w.callerOf caller), w)

/-- An asynchronous call. -/
def submit (w : World) (id : String) (shape : Shape) (spec : CallSpec) : Result × World :=
  let (caller, w) := w.arrive spec.caller
  let (occurrences, w) :=
    w.move (.submit (w.clientOf spec) caller spec.operation spec.reception.handler id shape)
  match occurrences.getLast? with
  | some (.submitted _) =>
    let (firstStream, w) := w.numberStreams spec.script
    let w : World := { w with stagings := w.stagings ++ [{ spec, firstStream }] }
    (.submitted (w.callerOf caller), w.execute id)
  | some (.refused fault) => (.refused fault, w)
  | _ => (.nothing, w)

/-! ### The manual queue -/

/-- The task a step means: the one named, or the oldest. Only a manual executor has any. -/
def chosen? (w : World) (id : Option String) : Option String :=
  if w.executor = .manual then
    match id with
    | none => w.queued.head?
    | some id => w.queued.find? (· == id)
  else none

/-- Runs a chosen task on the caller's thread. -/
def runQueued (w : World) (id : Option String) : Result × World :=
  match w.chosen? id with
  | some id => (.ran id, w.perform id .caller)
  | none => (.nothingQueued, w)

/-- Runs all tasks, the oldest first. -/
def runAll (w : World) : Result × World :=
  let ids := if w.executor = .manual then w.queued else []
  (.ranAll ids, ids.foldl (fun w id => w.perform id .caller) w)

/-- Drops a chosen task unrun. -/
def dropQueued (w : World) (id : Option String) : Result × World :=
  match w.chosen? id with
  | some id => (.dropped id, w.act id .abandon)
  | none => (.nothingQueued, w)

/-- Starts a chosen task on a thread of its own. -/
def startQueued (w : World) (id : Option String) : Result × World :=
  match w.chosen? id with
  | some id =>
    let w := w.perform id .worker
    (.started id ((w.entry? id).any (·.staging.atGate)), w)
  | none => (.nothingQueued, w)

/-- Opens the gate of a call, which then runs to its end. -/
def release (w : World) (id : String) : Result × World :=
  match w.entry? id with
  | some e =>
    if e.staging.atGate then
      let w := w.restage e fun staging => { staging with atGate := false }
      let w := w.observe [.leaving id (w.signals.isRaised e.ticket.interrupt)]
      (.released id, (w.complete e).pump)
    else (.notBlocked, w)
  | none => (.notBlocked, w)

/-! ### Observation -/

/-- The flag of a call that stopped at its gate. -/
def probe (w : World) (id : String) : Result :=
  match (w.entry? id).bind (·.staging.kept) with
  | some context => .interrupted (context.isInterrupted w.signals)
  | none => .neverRan

/-- What is known of an existing call. -/
def ofCall (w : World) (id : String) (f : Entry → Result) : Result :=
  match w.entry? id with
  | some e => f e
  | none => .noSuchCall

/-- The status of a call after a wait. Nothing moves while a step waits. -/
def wait (e : Entry) (milliseconds : UInt64) : Result :=
  let watch : Watch String Reply := { now := .origin, flight := e.ticket.flight }
  match watch.waitAlone e.ticket.shape.convert (.ofMillis milliseconds) with
  | some status => .waited status
  | none => .nothing

/-- The outcome of a call, or something else while there is none. -/
def outcomeOr (e : Entry) (other : Result) : Result :=
  match e.ticket.flight.call.outcome? with
  | some outcome => .outcome outcome
  | none => other

/-! ### Helpers -/

/-- Sends a helper; a new helper of a name takes the place of the old one. -/
def send (w : World) (name : Option String) (helper : Helper) : World :=
  { w with helpers := (name, helper) :: w.helpers.filter fun p => p.1 != name }

/-- What a helper has to say. -/
def answerOf (w : World) : Helper → Result
  | .cancelling id position =>
    match (w.entry? id).bind (·.ticket.flight.answer? position) with
    | some cancelled => .answered cancelled
    | none => .blocked
  | .getting id => w.ofCall id fun e => outcomeOr e .blocked

/-- Sends a helper to cancel a call. -/
def cancel (w : World) (id : String) (interrupt : Bool) (name : Option String) :
    Result × World :=
  match w.entry? id with
  | none => (.noSuchCall, w)
  | some e =>
    let helper := Helper.cancelling id e.ticket.flight.cancels.length
    let w := (w.act id (.cancel false interrupt)).send name helper
    (w.answerOf helper, w)

/-- Sends a helper to wait for the outcome of a call. -/
def getBy (w : World) (id : String) (name : Option String) : Result × World :=
  match w.entry? id with
  | none => (.noSuchCall, w)
  | some _ =>
    let w := w.send name (.getting id)
    (w.answerOf (.getting id), w)

/-- Asks a helper for its result. -/
def join (w : World) (name : Option String) : Result :=
  match w.helpers.find? fun p => p.1 == name with
  | some (_, helper) => w.answerOf helper
  | none => .noSuchHelper

/-- Polls a call with a named waker. -/
def poll (w : World) (id waker : String) : Result × World :=
  match w.entry? id with
  | none => (.noSuchCall, w)
  | some e =>
    let wakes := if w.wakes.any (·.1 == waker) then w.wakes else w.wakes ++ [(waker, 0)]
    let result : Result := outcomeOr e .pending
    (result, ({ w with wakes } : World).act id (.poll waker))

/-- Shuts a detachable pool down. -/
def shutdown (w : World) : Result × World :=
  match w.executor with
  | .pool pool =>
    if pool.detachable && pool.isOpen then
      (.shutDown, { w with executor := .pool { pool with isOpen := false } })
    else (.noPool, w)
  | _ => (.noPool, w)

/-- A change of who is logged in, whose result is what occurs last. -/
def changeIdentity (w : World) (m : Session.Move String) : Result × World :=
  let (occurrences, w) := w.move m
  match occurrences.getLast? with
  | some (.cleared identity) => (.cleared identity, w)
  | some (.loggedIn result) => (.loggedIn result, w)
  | _ => (.nothing, w)

end World

/-- **One step**. -/
def Step.run (w : World) : Step → Result × World
  | .establish identity => w.changeIdentity (.establish identity)
  | .clear => w.changeIdentity .clear
  | .login provider request => w.changeIdentity (.login provider request)
  | .sync spec => w.sync spec
  | .submit id shape spec => w.submit id shape spec
  | .runTask id => w.runQueued id
  | .runAllTasks => w.runAll
  | .dropTask id => w.dropQueued id
  | .startTask id => w.startQueued id
  | .release id => w.release id
  | .probe id => (w.probe id, w)
  | .status id => (w.ofCall id fun e => .status e.ticket.flight.call.status, w)
  | .wait id milliseconds => (w.ofCall id fun e => World.wait e milliseconds, w)
  | .get id => (w.ofCall id fun e => World.outcomeOr e .waiting, w)
  | .cancel id interrupt name => w.cancel id interrupt name
  | .getBy id name => w.getBy id name
  | .join name => (w.join name, w)
  | .poll id waker => w.poll id waker
  | .wakes => (.woken w.wakes, w)
  | .shutdown => w.shutdown
  | .close => (.nothing, w)

/-- A world with an empty record. -/
def World.cleanRecord (w : World) : World :=
  { w with
    seen := []
    reports := []
    log := []
    sourceState := { w.sourceState with asked := 0 } }

/-- A **scenario**: the result of every step and the world after it, whose record is that of
the step alone. -/
def run (w : World) : List Step → List (Result × World)
  | [] => []
  | step :: rest =>
    let (result, next) := step.run w.cleanRecord
    (result, next) :: run next rest

end CallGate.Scenario

import CallGate.Access
import CallGate.Scenario.Script
import CallGate.Session

/-!
# The world of a scenario

A scenario plays a session: its steps make callers arrive, make calls and let them move, and the
controller of a call behaves as the call's script says. The world adds to the session what a
scenario needs for that: the executor, how the asynchronous calls are played, the helpers that
are parked somewhere, and the record of the step that is under way. The session itself changes
only by its moves (`World.move`), and what occurs then is noted in the record.

The executors a scenario can have run tasks at once, drop them, keep them until a step says
so, or run them on a bounded pool in order of submission. A pooled task that is not at its
gate has run to its end before a step is over, so what a pool keeps busy are its calls at a
gate.
-/

namespace CallGate.Scenario

/-! ### Parts of a world -/

/-- A pool of workers. -/
structure Pool where
  capacity : Nat
  threadName : String
  /-- Whether the pool can be shut down by itself, because calls go through a handle. -/
  detachable : Bool
  isOpen : Bool := true
deriving DecidableEq, Repr

/-- An **executor**. -/
inductive Executor where
  | absent
  | manual
  | dropping
  | inline
  | pool (pool : Pool)
deriving DecidableEq, Repr

/-- Where a task runs: on the thread of the scenario, which never waits at a gate, or on a
thread of its own. -/
inductive Thread where
  | caller
  | named (name : String)
deriving DecidableEq, Repr

/-- The name a thread is observed by. -/
def Thread.name : Thread → String
  | caller => "caller"
  | named name => name

/-- The thread of a task that a step starts. -/
def Thread.worker : Thread := .named "worker"

/-- What becomes of a call's reports: they are kept, or go through a message handler. -/
inductive Reception where
  | recording
  | handledBy (handler : MessageHandler)

/-- How a call is made. -/
structure CallSpec where
  superUser : Bool
  caller : CallContext
  operation : Operation
  reception : Reception
  script : Script

/-- The handler of a reception; reports that are kept are not logged. -/
def Reception.handler : Reception → MessageHandler
  | recording => .discarding
  | handledBy handler => handler

/-- How an asynchronous call is **staged**. The numbers of its streams are handed out when the
call is made, so they do not depend on when it runs. -/
structure Staging where
  spec : CallSpec
  firstStream : Nat
  /-- Waiting at the gate. -/
  atGate : Bool := false
  /-- The context of a call that stopped at its gate. -/
  kept : Option ExecutionContext := none

/-- An asynchronous call of a world: its ticket and how it is staged. -/
structure Entry where
  position : Nat
  ticket : Ticket String
  staging : Staging

/-- A **helper** that was sent to cancel a call or to wait for it. -/
inductive Helper where
  | cancelling (id : String) (position : Nat)
  | getting (id : String)
deriving DecidableEq, Repr

/-- A **world**. The last three fields are the record of the step under way. -/
structure World extends Session String where
  executor : Executor
  /-- How many streams have been numbered. -/
  streams : Nat := 0
  /-- The stagings of the asynchronous calls, in their order. -/
  stagings : List Staging := []
  helpers : List (Option String × Helper) := []
  wakes : List (String × Nat) := []
  seen : List Observation := []
  reports : List Report := []
  log : List Log.Event := []

namespace World

/-! ### Looking up and changing -/

/-- The call of an id. -/
def entry? (w : World) (id : String) : Option Entry := do
  let position ← w.calls.findIdx? fun t => t.id == id
  return ⟨position, ← w.calls[position]?, ← w.stagings[position]?⟩

/-- Where the task of a call is. -/
def task? (w : World) (id : String) : Option TaskPhase :=
  (w.entry? id).map fun e => e.ticket.flight.task

/-- Stages a call in another way. -/
def restage (w : World) (e : Entry) (change : Staging → Staging) : World :=
  { w with stagings := w.stagings.modify e.position change }

/-- Adds observations to the record. -/
def observe (w : World) (seen : List Observation) : World := { w with seen := w.seen ++ seen }

/-- Adds events to the record. -/
def record (w : World) (events : List Log.Event) : World := { w with log := w.log ++ events }

/-- Numbers the streams of a response: the first number, and the world afterwards. -/
def numberStreams (w : World) (script : Script) : Nat × World :=
  (w.streams, { w with streams := w.streams + script.response.streamCount })

/-- Counts a wake-up. -/
def countWake (wakes : List (String × Nat)) (waker : String) : List (String × Nat) :=
  wakes.map fun p => if p.1 == waker then (p.1, p.2 + 1) else p

/-! ### Moves of the session -/

/-- Takes **note** of what has occurred in the session. -/
def note (w : World) : Occurrence String → World
  | .logged event | .happened _ (.log event) => w.record [event]
  | .happened _ (.wake waker) => { w with wakes := countWake w.wakes waker }
  | _ => w

/-- A **move** of the session, and what occurs; nothing if it cannot happen. -/
def move (w : World) (m : Session.Move String) : List (Occurrence String) × World :=
  match w.toSession.step? m with
  | none => ([], w)
  | some (session, occurrences) =>
    (occurrences, occurrences.foldl note { w with toSession := session })

/-- A call goes on until its owner lock is free. -/
def goOn (w : World) (id : String) : World :=
  match w.entry? id with
  | none => w
  | some e => e.ticket.flight.remaining.foldl (fun w a => (w.move (.act e.position a)).2) w

/-- A call moves by an action and goes on until its owner lock is free. -/
def act (w : World) (id : String) (action : Action String) : World :=
  match w.entry? id with
  | none => w
  | some e => (w.move (.act e.position action)).2.goOn id

/-- A caller arrives; its position, and the world afterwards. -/
def arrive (w : World) (context : CallContext) : Nat × World :=
  (w.callers.length, (w.move (.arrive context)).2)

/-- The context of a caller. -/
def callerOf (w : World) (caller : Nat) : CallContext := w.callers.getD caller {}

/-- The controller of a call reports; a recording reception keeps the reports. -/
def deliver (w : World) (call : CallName) (reception : Reception) (reports : List Report) :
    World :=
  let w := reports.foldl (fun w report => (w.move (.report call report)).2) w
  match reception with
  | .recording => { w with reports := w.reports ++ reports }
  | .handledBy _ => w

/-! ### Running a call -/

/-- Lets every parked cancel of a call look again. -/
def resumeAll (w : World) (id : String) : World :=
  match w.entry? id with
  | none => w
  | some e =>
    (List.range e.ticket.flight.cancels.length).foldl (fun w k => w.act id (.resume k)) w

/-- The controller is through with a call: its result is handed in, the task goes away, and
the cancels that waited for that come back. -/
def complete (w : World) (e : Entry) : World :=
  let id := e.ticket.id
  let ending := e.staging.spec.script.ending e.ticket.dispatch.operation e.staging.firstStream
  ((w.act id (.finish ending)).act id .abandon).resumeAll id

/-- The controller begins a call that a worker has claimed. -/
def enter (w : World) (e : Entry) (thread : Thread) : World :=
  let spec := e.staging.spec
  let (occurrences, w) := w.move (.act e.position .invoke)
  match occurrences.findSome? Occurrence.invocation? with
  | none => w
  | some invocation =>
    let w := w.observe
      (spec.script.observations e.ticket.id thread.name invocation w.signals)
    let w := w.deliver (.queued e.position) spec.reception spec.script.reports
    if spec.script.gate && thread != .caller then
      w.restage e fun staging => { staging with atGate := true, kept := some invocation.context }
    else w.complete e

/-- **Runs a task** on a thread, to its end or to its gate. -/
def perform (w : World) (id : String) (thread : Thread) : World :=
  match w.entry? id with
  | none => w
  | some e =>
    let w := w.act id (.claim e.ticket.interrupt)
    match w.task? id with
    | some (.claimed _) => w.enter e thread
    | _ => w.act id .abandon

/-- The ids of the tasks that have not begun, in order of submission. -/
def queued (w : World) : List String :=
  (w.calls.filter fun t => t.flight.task == .queued).map (·.id)

/-- How many calls are at their gate. -/
def busy (w : World) : Nat := w.stagings.countP (·.atGate)

/-- Lets a pool take up queued tasks for as long as it has a free worker. -/
def pump (w : World) : World :=
  match w.executor with
  | .pool pool =>
    w.queued.foldl
      (fun w id => if w.busy < pool.capacity then w.perform id (.named pool.threadName) else w) w
  | _ => w

/-- Hands a submitted task to the executor. -/
def execute (w : World) (id : String) : World :=
  match w.executor with
  | .absent | .manual => w
  | .dropping => w.act id .abandon
  | .inline => w.perform id .caller
  | .pool pool => if pool.isOpen then w.pump else w.act id .abandon

end World

end CallGate.Scenario

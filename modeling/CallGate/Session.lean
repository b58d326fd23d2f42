import CallGate.Call.Flight
import CallGate.Client
import CallGate.Interleaving
import CallGate.Login

/-!
# Sessions

What goes on around the clients of one factory. Connections are logged in and out, which changes
whose identity is held. Callers, each with a context of its own, make calls through ordinary and
super-user clients: synchronous ones, whose controller is invoked at once and answers later, and
asynchronous ones, whose tasks are run, dropped, cancelled and watched at any time. All of this
may happen in any order; the calls that were submitted move by single actions of their flights, so
that anything may come between two sections of one call.

* `Session.step?` — one move, or nothing when it cannot happen here.
* `Session.run?` — an interleaving, with everything that occurred on the way.

What occurs is told as `Occurrence`s, in order: who was logged in and out, what was logged, what
became of a submission, what the controller was invoked with, what it reported and answered.
-/

namespace CallGate

/-! ### The identity of the moment -/

/-- What **supplies** identities: a function that counts how often it is asked, the holder
itself, or nobody. -/
inductive Source where
  | counting
  | holder
  | anonymous
deriving DecidableEq, Repr

/-- The state behind a source. -/
structure SourceState where
  holder : Holder := {}
  asked : Nat := 0
deriving DecidableEq, Repr

/-- The supplier of a source. -/
def Source.supplier : Source → Supplier SourceState
  | counting => ⟨fun s => (s.holder.current, { s with asked := s.asked + 1 })⟩
  | holder => ⟨fun s => (s.holder.current, s)⟩
  | anonymous => .anonymous SourceState

/-! ### Calls of a session -/

/-- The **name** of a call: its position among the synchronous calls of a session, or among the
asynchronous ones. -/
inductive CallName where
  | direct (position : Nat)
  | queued (position : Nat)
deriving DecidableEq, Repr

/-- A **direct call**: a synchronous call, whose caller waits while the controller is at work. -/
structure DirectCall where
  invocation : Invocation
  handler : MessageHandler
  atWork : Bool := true

/-- A **ticket**: an asynchronous call that was accepted, with what was captured for it. The
numbers of its flag and of its request are handed out when the call is made, so they do not
depend on when it runs. -/
structure Ticket (ω : Type) where
  id : String
  shape : Shape
  dispatch : Dispatch
  handler : MessageHandler
  interrupt : Interrupt
  request : RequestId
  flight : Flight ω Reply := {}

/-! ### Occurrences -/

/-- What **occurs** in a session. -/
inductive Occurrence (ω : Type) where
  | established (identity : Identity)
  | cleared (identity : Option Identity)
  | loggedIn (result : Except Fault Identity)
  | logged (event : Log.Event)
  /-- An asynchronous call was accepted. -/
  | submitted (position : Nat)
  /-- An asynchronous call was refused. -/
  | refused (fault : Fault)
  /-- The controller is invoked. -/
  | invoked (call : CallName) (invocation : Invocation)
  /-- The controller reports to the handler of a call. -/
  | reported (call : CallName) (report : Report)
  /-- A synchronous call is over. -/
  | answered (position : Nat) (ending : Ending)
  /-- An asynchronous call has some other effect. -/
  | happened (position : Nat) (effect : Effect ω)

/-- The invocation of the controller, if it is one. -/
def Occurrence.invocation? {ω : Type} : Occurrence ω → Option Invocation
  | invoked _ invocation => some invocation
  | _ => none

namespace Ticket

variable {ω : Type}

/-- The **invocation** of the controller for a ticket, with the flag that its worker got. -/
def invocation (t : Ticket ω) (flag : Interrupt) : Invocation :=
  t.dispatch.invocation flag t.request

/-- A ticket's flight moves. Its worker claims it with the ticket's own flag. -/
def step? [BEq ω] (t : Ticket ω) (action : Action ω) :
    Option (Flight ω Reply × List (Effect ω)) :=
  match action with
  | .claim fresh => if fresh = t.interrupt then t.flight.step? t.shape.convert action else none
  | _ => t.flight.step? t.shape.convert action

/-- What **occurs** when a ticket's flight has an effect. -/
def occurrence (t : Ticket ω) (position : Nat) : Effect ω → Occurrence ω
  | .invoke flag => .invoked (.queued position) (t.invocation flag)
  | effect => .happened position effect

end Ticket

/-! ### Sessions -/

/-- A **session**. -/
structure Session (ω : Type) where
  source : Source := .counting
  sourceState : SourceState := {}
  signals : Signals := {}
  /-- How many requests there have been. -/
  requests : Nat := 0
  callers : List CallContext := []
  direct : List DirectCall := []
  calls : List (Ticket ω) := []

/-- A **move** in a session. Callers are known by their position. -/
inductive Session.Move (ω : Type) where
  | establish (identity : Identity)
  | clear
  | login (provider : Provider) (request : LoginRequest)
  /-- A caller joins the session with a context. -/
  | arrive (context : CallContext)
  /-- A caller takes another context. -/
  | change (caller : Nat) (context : CallContext)
  /-- A caller makes a synchronous call. -/
  | call (client : Client) (caller : Nat) (operation : Operation) (handler : MessageHandler)
  /-- A caller makes an asynchronous call. -/
  | submit (client : Client) (caller : Nat) (operation : Operation) (handler : MessageHandler)
      (id : String) (shape : Shape)
  /-- The controller of a call reports. -/
  | report (call : CallName) (report : Report)
  /-- The controller of a synchronous call ends. -/
  | answer (position : Nat) (ending : Ending)
  /-- Somebody acts on an asynchronous call. -/
  | act (position : Nat) (action : Action ω)

namespace Session

variable {ω : Type}

/-- Changes what is held. -/
def withHolder (s : Session ω) (holder : Holder) : Session ω :=
  { s with sourceState := { s.sourceState with holder } }

/-- The numbers of a new call: its flag and its request. -/
def number (s : Session ω) : (Interrupt × RequestId) × Session ω :=
  let (interrupt, signals) := s.signals.fresh
  ((interrupt, ⟨s.requests⟩), { s with signals, requests := s.requests + 1 })

/-- A synchronous call: it is captured and invokes the controller at once. -/
def call? (s : Session ω) (client : Client) (caller : Nat) (operation : Operation)
    (handler : MessageHandler) : Option (Session ω × List (Occurrence ω)) :=
  s.callers[caller]?.map fun context =>
    let ((interrupt, request), s) := s.number
    let (invocation, sourceState) :=
      client.prepare s.source.supplier context operation interrupt request s.sourceState
    ({ s with sourceState, direct := s.direct ++ [{ invocation, handler }] },
      [.invoked (.direct s.direct.length) invocation])

/-- An asynchronous call: it is accepted with a ticket, or refused. -/
def submit? (s : Session ω) (client : Client) (caller : Nat) (operation : Operation)
    (handler : MessageHandler) (id : String) (shape : Shape) :
    Option (Session ω × List (Occurrence ω)) :=
  s.callers[caller]?.map fun context =>
    match client.submit s.source.supplier context operation s.sourceState with
    | (.error fault, sourceState) => ({ s with sourceState }, [.refused fault])
    | (.ok (dispatch, events), sourceState) =>
      let ((interrupt, request), s) := ({ s with sourceState } : Session ω).number
      let ticket : Ticket ω := { id, shape, dispatch, handler, interrupt, request }
      ({ s with calls := s.calls ++ [ticket] },
        events.map .logged ++ [.submitted s.calls.length])

/-- The handler of a call whose controller is at work. -/
def handler? (s : Session ω) : CallName → Option MessageHandler
  | .direct position => (s.direct[position]?.filter (·.atWork)).map (·.handler)
  | .queued position => (s.calls[position]?.filter (·.flight.task.isRunning)).map (·.handler)

/-- The controller of a call reports, and the handler of the call logs what it makes of it. -/
def report? (s : Session ω) (call : CallName) (report : Report) :
    Option (Session ω × List (Occurrence ω)) :=
  (s.handler? call).map fun handler =>
    (s, .reported call report :: (handler.handle report).map .logged)

/-- The controller of a synchronous call ends, and the caller gets just that. -/
def answer? (s : Session ω) (position : Nat) (ending : Ending) :
    Option (Session ω × List (Occurrence ω)) :=
  (s.direct[position]?.filter (·.atWork)).map fun call =>
    ({ s with direct := s.direct.set position { call with atWork := false } },
      [.answered position ending])

/-- An asynchronous call moves. -/
def act? [BEq ω] (s : Session ω) (position : Nat) (action : Action ω) :
    Option (Session ω × List (Occurrence ω)) :=
  match s.calls[position]? with
  | none => none
  | some ticket =>
    (ticket.step? action).map fun r =>
      ({ s with
          calls := s.calls.set position { ticket with flight := r.1 }
          signals := s.signals.after r.2 },
        r.2.map (ticket.occurrence position))

/-- One **step**. -/
def step? [BEq ω] (s : Session ω) : Move ω → Option (Session ω × List (Occurrence ω))
  | .establish identity =>
    some (s.withHolder (s.sourceState.holder.establish identity), [.established identity])
  | .clear =>
    let (identity, holder) := s.sourceState.holder.clear
    some (s.withHolder holder, [.cleared identity])
  | .login provider request =>
    let ((result, trace), holder) := provider.loginInto request s.sourceState.holder
    some (s.withHolder holder, trace.events.map .logged ++ [.loggedIn result])
  | .arrive context => some ({ s with callers := s.callers ++ [context] }, [])
  | .change caller context => some ({ s with callers := s.callers.set caller context }, [])
  | .call client caller operation handler => s.call? client caller operation handler
  | .submit client caller operation handler id shape =>
    s.submit? client caller operation handler id shape
  | .report call report => s.report? call report
  | .answer position ending => s.answer? position ending
  | .act position action => s.act? position action

/-- An **interleaving** of moves. -/
def run? [BEq ω] (s : Session ω) (moves : List (Move ω)) :
    Option (Session ω × List (Occurrence ω)) :=
  Interleaving.run? step? s moves

end Session

end CallGate

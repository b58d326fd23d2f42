import CallGate.Session

/-!
# The Steps of a Session

`Session.step?` computes one step of a session; `Session.Step` says what a step can do. A call is
made by one step, synchronous or asynchronous, and what is captured for it is read off that step
(`Session.Dispatches`). A call that was submitted moves by the actions of its own flight, and no
other step touches it.

## Main results

* `Session.step_of_step?`: what `step?` computes is a step.
* `Session.run?_induction`: what every step keeps holds after a run.
-/

namespace CallGate

variable {ω : Type}

namespace Session

/-- A session after a synchronous call was made, with what was captured for it. -/
def withDirect (s : Session ω) (sourceState : SourceState) (dispatch : Dispatch)
    (handler : MessageHandler) : Session ω :=
  { s with
    sourceState
    signals := s.signals.fresh.2
    requests := s.requests + 1
    direct := s.direct ++
      [{ invocation := dispatch.directInvocation s.signals.fresh.1 ⟨s.requests⟩, handler }] }

/-- The **ticket** of an asynchronous call that is accepted in a session. -/
def ticket (s : Session ω) (dispatch : Dispatch) (handler : MessageHandler) (id : String)
    (shape : Shape) : Ticket ω :=
  { id, shape, dispatch, handler, interrupt := s.signals.fresh.1, request := ⟨s.requests⟩ }

/-- A session after an asynchronous call was accepted. -/
def withTicket (s : Session ω) (sourceState : SourceState) (ticket : Ticket ω) : Session ω :=
  { s with
    sourceState
    signals := s.signals.fresh.2
    requests := s.requests + 1
    calls := s.calls ++ [ticket] }

/-- What a client **captures** for a caller at a moment of a session. -/
def captured (s : Session ω) (client : Client) (context : CallContext) (operation : Operation) :
    Dispatch × SourceState :=
  client.capture s.source.supplier context operation s.sourceState

/-- What is **dispatched** by a move: the call that is made, the client it is made through, the
context of its caller at that time and the operation. -/
inductive Dispatches (s : Session ω) :
    Move ω → CallName → Client → CallContext → Operation → Prop
  | call {client : Client} {caller : Nat} {context : CallContext} {operation : Operation}
      {handler : MessageHandler} :
      s.callers[caller]? = some context →
      Dispatches s (.call client caller operation handler) (.direct s.direct.length) client
        context operation
  | submit {client : Client} {caller : Nat} {context : CallContext} {operation : Operation}
      {handler : MessageHandler} {id : String} {shape : Shape} :
      s.callers[caller]? = some context → client.hasExecutor = true →
      Dispatches s (.submit client caller operation handler id shape) (.queued s.calls.length)
        client context operation

variable [BEq ω]

/-- The **steps** of a session: the session before, the move, the session after it and what
occurred. -/
inductive Step : Session ω → Move ω → Session ω → List (Occurrence ω) → Prop
  | established {s : Session ω} {identity : Identity} :
      Step s (.establish identity) (s.withHolder ⟨some identity⟩) [.established identity]
  | cleared {s : Session ω} :
      Step s .clear (s.withHolder {}) [.cleared s.sourceState.holder.current]
  /-- A login succeeds and establishes its identity. -/
  | loggedIn {s : Session ω} {provider : Provider} {request : LoginRequest}
      {identity : Identity} {trace : LoginTrace} :
      provider.runLogin request = (.ok identity, trace) →
      Step s (.login provider request) (s.withHolder ⟨some identity⟩)
        (trace.events.map .logged ++ [.loggedIn (.ok identity)])
  /-- A login fails and changes nothing. -/
  | rebuffed {s : Session ω} {provider : Provider} {request : LoginRequest} {fault : Fault}
      {trace : LoginTrace} :
      provider.runLogin request = (.error fault, trace) →
      Step s (.login provider request) s
        (trace.events.map .logged ++ [.loggedIn (.error fault)])
  | arrived {s : Session ω} {context : CallContext} :
      Step s (.arrive context) { s with callers := s.callers ++ [context] } []
  | changed {s : Session ω} {caller : Nat} {context : CallContext} :
      Step s (.change caller context) { s with callers := s.callers.set caller context } []
  /-- A synchronous call invokes the controller with what was captured. -/
  | called {s : Session ω} {client : Client} {caller : Nat} {context : CallContext}
      {operation : Operation} {handler : MessageHandler} {dispatch : Dispatch}
      {sourceState : SourceState} :
      s.callers[caller]? = some context →
      s.captured client context operation = (dispatch, sourceState) →
      Step s (.call client caller operation handler) (s.withDirect sourceState dispatch handler)
        [.invoked (.direct s.direct.length)
          (dispatch.directInvocation s.signals.fresh.1 ⟨s.requests⟩)]
  /-- An asynchronous call is accepted with what was captured. -/
  | accepted {s : Session ω} {client : Client} {caller : Nat} {context : CallContext}
      {operation : Operation} {handler : MessageHandler} {id : String} {shape : Shape}
      {dispatch : Dispatch} {sourceState : SourceState} :
      s.callers[caller]? = some context → client.hasExecutor = true →
      s.captured client context operation = (dispatch, sourceState) →
      Step s (.submit client caller operation handler id shape)
        (s.withTicket sourceState (s.ticket dispatch handler id shape))
        [.logged dispatch.submittedEvent, .submitted s.calls.length]
  /-- Without an executor nothing is captured. -/
  | refused {s : Session ω} {client : Client} {caller : Nat} {context : CallContext}
      {operation : Operation} {handler : MessageHandler} {id : String} {shape : Shape} :
      s.callers[caller]? = some context → client.hasExecutor = false →
      Step s (.submit client caller operation handler id shape) s [.refused .noExecutor]
  | reported {s : Session ω} {call : CallName} {report : Report} {handler : MessageHandler} :
      s.handler? call = some handler →
      Step s (.report call report) s
        (.reported call report :: (handler.handle report).map .logged)
  | answered {s : Session ω} {position : Nat} {ending : Ending} {call : DirectCall} :
      s.direct[position]? = some call → call.atWork = true →
      Step s (.answer position ending)
        { s with direct := s.direct.set position { call with atWork := false } }
        [.answered position ending]
  /-- A flight moves. -/
  | acted {s : Session ω} {position : Nat} {action : Action ω} {ticket : Ticket ω}
      {flight : Flight ω Reply} {effects : List (Effect ω)} :
      s.calls[position]? = some ticket → ticket.step? action = some (flight, effects) →
      Step s (.act position action)
        { s with
          calls := s.calls.set position { ticket with flight }
          signals := s.signals.after effects }
        (effects.map (ticket.occurrence position))

namespace Step

variable {s next : Session ω} {new : List (Occurrence ω)}

/-- What a login computes is a step. -/
theorem of_login {provider : Provider} {request : LoginRequest}
    (h : s.step? (.login provider request) = some (next, new)) :
    Step s (.login provider request) next new := by
  simp only [step?, Provider.loginInto] at h
  cases hlogin : provider.runLogin request with
  | mk result trace =>
      simp only [hlogin] at h
      obtain ⟨rfl, rfl⟩ := Prod.mk.inj (Option.some.inj h)
      cases result with
      | ok identity => exact .loggedIn hlogin
      | error fault => exact .rebuffed hlogin

/-- What `call?` computes is a step. -/
theorem of_call? {client : Client} {caller : Nat} {operation : Operation}
    {handler : MessageHandler}
    (h : s.call? client caller operation handler = some (next, new)) :
    Step s (.call client caller operation handler) next new := by
  obtain ⟨context, hcaller, hr⟩ := Option.map_eq_some_iff.mp h
  obtain ⟨rfl, rfl⟩ := Prod.mk.inj hr
  exact .called hcaller rfl

/-- What `submit?` computes is a step. -/
theorem of_submit? {client : Client} {caller : Nat} {operation : Operation}
    {handler : MessageHandler} {id : String} {shape : Shape}
    (h : s.submit? client caller operation handler id shape = some (next, new)) :
    Step s (.submit client caller operation handler id shape) next new := by
  obtain ⟨context, hcaller, hr⟩ := Option.map_eq_some_iff.mp h
  cases hexecutor : client.hasExecutor with
  | false =>
      simp only [Client.submit, hexecutor, Bool.false_eq_true, if_false] at hr
      obtain ⟨rfl, rfl⟩ := Prod.mk.inj hr
      exact .refused hcaller hexecutor
  | true =>
      simp only [Client.submit, hexecutor, if_true] at hr
      obtain ⟨rfl, rfl⟩ := Prod.mk.inj hr
      exact .accepted hcaller hexecutor rfl

/-- What `report?` computes is a step. -/
theorem of_report? {call : CallName} {report : Report}
    (h : s.report? call report = some (next, new)) : Step s (.report call report) next new := by
  obtain ⟨handler, hhandler, hr⟩ := Option.map_eq_some_iff.mp h
  obtain ⟨rfl, rfl⟩ := Prod.mk.inj hr
  exact .reported hhandler

/-- What `answer?` computes is a step. -/
theorem of_answer? {position : Nat} {ending : Ending}
    (h : s.answer? position ending = some (next, new)) :
    Step s (.answer position ending) next new := by
  obtain ⟨call, hcall, hr⟩ := Option.map_eq_some_iff.mp h
  obtain ⟨rfl, rfl⟩ := Prod.mk.inj hr
  obtain ⟨hcall, hwork⟩ := Option.filter_eq_some_iff.mp hcall
  exact .answered hcall hwork

/-- What `act?` computes is a step. -/
theorem of_act? {position : Nat} {action : Action ω}
    (h : s.act? position action = some (next, new)) : Step s (.act position action) next new := by
  unfold act? at h
  split at h
  next => cases h
  next ticket hticket =>
    obtain ⟨⟨flight, effects⟩, hstep, hr⟩ := Option.map_eq_some_iff.mp h
    obtain ⟨rfl, rfl⟩ := Prod.mk.inj hr
    exact .acted hticket hstep

end Step

/-- **One step**, as computed, is one of the steps. -/
theorem step_of_step? {s next : Session ω} {m : Move ω} {new : List (Occurrence ω)}
    (h : s.step? m = some (next, new)) : Step s m next new := by
  cases m with
  | establish identity =>
      obtain ⟨rfl, rfl⟩ := Prod.mk.inj (Option.some.inj h)
      exact .established
  | clear =>
      obtain ⟨rfl, rfl⟩ := Prod.mk.inj (Option.some.inj h)
      exact .cleared
  | login provider request => exact .of_login h
  | arrive context =>
      obtain ⟨rfl, rfl⟩ := Prod.mk.inj (Option.some.inj h)
      exact .arrived
  | change caller context =>
      obtain ⟨rfl, rfl⟩ := Prod.mk.inj (Option.some.inj h)
      exact .changed
  | call client caller operation handler => exact .of_call? h
  | submit client caller operation handler id shape => exact .of_submit? h
  | report call report => exact .of_report? h
  | answer position ending => exact .of_answer? h
  | act position action => exact .of_act? h

/-- **Induction along a run**: what holds of a session after some moves and occurrences, and is
kept by every step, holds after the run. -/
theorem run?_induction {P : List (Move ω) → List (Occurrence ω) → Session ω → Prop}
    (hstep : ∀ {before past s m next new}, P before past s → Step s m next new →
      P (before ++ [m]) (past ++ new) next)
    (before : List (Move ω)) (past : List (Occurrence ω)) {moves : List (Move ω)}
    {told : List (Occurrence ω)} {s last : Session ω} (hstart : P before past s)
    (hrun : s.run? moves = some (last, told)) :
    P (before ++ moves) (past ++ told) last :=
  Interleaving.run?_induction (fun h hm => hstep h (step_of_step? hm)) before past hstart hrun

end Session

end CallGate

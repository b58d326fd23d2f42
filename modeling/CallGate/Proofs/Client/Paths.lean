import CallGate.Call.Execution
import CallGate.Proofs.Flight.Interruption

/-!
# The Two Paths of a Call

A call can be made directly, and then its caller gets what the controller answers, or it can be
queued, and then a worker carries it out and its future gets an outcome. If nobody cancels it, the
two come to the same. The controller is given the same either way, up to the numbers of its flag
and of its request (`Controller.IgnoresNumbers` says that it does not care for those). And the
outcome is what the direct call would have brought: the response itself or its document, the
fault unchanged, a cancellation if that is what the response reports. Only a panic takes different
ways: it goes through to the caller of a direct call, and is a failed execution on a worker.

## Main results

* `Flight.settled_of_carriedOut`: a call that is carried out comes to the verdict on the
  controller's run.
* `Dispatch.perform_eq`: so does a dispatch that is performed at once.
* `Dispatch.comesTo_of_verdict`: so a dispatch comes to it, however a worker takes it up.
* `Client.paths_agree`: direct and queued calls agree.
-/

namespace CallGate

variable {ω α : Type}

/-- A controller that **ignores numbers**: its answer depends on the operation, the identity, the
boundary marker, the word on the transaction and on whether it is interrupted. -/
def Controller.IgnoresNumbers (c : Controller) : Prop :=
  ∀ (i j : Invocation) (interrupted : Bool),
    i.operation = j.operation → i.context.identity = j.context.identity →
      i.context.inside = j.context.inside → i.control = j.control →
      c.execute i interrupted = c.execute j interrupted

/-! ### Calls that are carried out -/

namespace Flight

variable [BEq ω] {convert : Response → α} {controller : Controller} {invocation : Invocation}
  {signals : Signals}

/-- A call is **carried out** in some actions: nobody cancels it, a worker claims it with its
flag, and what the worker hands in is how the controller's run ends, given whether it is
interrupted by then. -/
structure CarriedOut (controller : Controller) (invocation : Invocation) (signals : Signals)
    (convert : Response → α) (actions : List (Action ω)) : Prop where
  uncancelled : ∀ byWorker interrupt, .cancel byWorker interrupt ∉ actions
  claimed : ∀ fresh, .claim fresh ∈ actions → fresh = invocation.context.interrupt
  finished : ∃ ending, .finish ending ∈ actions
  answered : ∀ before ending later f effects, actions = before ++ .finish ending :: later →
    ({} : Flight ω α).run? convert before = some (f, effects) →
      ending =
        (controller.execute invocation
          (invocation.context.isInterrupted (signals.after effects))).ending

/-- A worker that can finish is on a course that nobody disputes, if nobody has cancelled. -/
theorem claimed_of_finish {actions : List (Action ω)} {ending : Ending} {f next : Flight ω α}
    {effects new : List (Effect ω)}
    (hrun : ({} : Flight ω α).run? convert actions = some (f, effects))
    (hfinish : f.step? convert (.finish ending) = some (next, new))
    (huncancelled : ∀ byWorker interrupt, .cancel byWorker interrupt ∉ actions) :
    ∃ flag, Course.ofActions convert actions = .claimed flag ∧ raises effects = [] := by
  have hstands := stands_of_run? hrun
  obtain ⟨running, hrunning⟩ : ∃ running, f.task = .running running := by
    cases step_of_step? hfinish with
    | finished _ hrunning | discarded _ hrunning => exact ⟨_, hrunning⟩
  cases hcourse : Course.ofActions convert actions with
  | untouched =>
      rw [hcourse] at hstands
      have hqueued := hstands.queued
      rw [hrunning] at hqueued
      cases hqueued
  | claimed flag =>
      rw [hcourse] at hstands
      exact ⟨flag, rfl, hstands.told.2⟩
  | displaced flag asked =>
      exact absurd hcourse (Course.foldl_ne_displaced (by simp) huncancelled)
  | ended outcome worker =>
      rw [hcourse] at hstands
      have hidle := hstands.idle
      rw [hrunning] at hidle
      cases hidle

/-- **A call that is carried out** comes to the verdict on the controller's run, which is not
interrupted. The controller is invoked once, with the flag of the invocation, and no flag is
raised. -/
theorem settled_of_carriedOut {actions : List (Action ω)} {f : Flight ω α}
    {effects : List (Effect ω)}
    (hrun : ({} : Flight ω α).run? convert actions = some (f, effects))
    (hcarried : CarriedOut controller invocation signals convert actions)
    (hquiet : invocation.context.isInterrupted signals = false) :
    invocations effects = [invocation.context.interrupt] ∧ raises effects = [] ∧
      ∃ outcome, Verdict convert (controller.execute invocation false).ending outcome ∧
        (f.call.outcome? = none ∨ f.call.outcome? = some outcome) ∧
        (f.AtRest → f.call.outcome? = some outcome) := by
  have hstands := stands_of_run? hrun
  obtain ⟨ending, hmem⟩ := hcarried.finished
  obtain ⟨before, later, rfl⟩ := List.append_of_mem hmem
  rw [run?_eq_interleaving] at hrun
  obtain ⟨g, past, _, hbefore, hrest, rfl⟩ := Interleaving.run?_append.mp hrun
  obtain ⟨next, new, _, hfinish, -, rfl⟩ := Interleaving.run?_cons.mp hrest
  rw [← run?_eq_interleaving] at hbefore
  obtain ⟨flag, hcourse, hunraised⟩ := claimed_of_finish hbefore hfinish
    fun byWorker interrupt h => hcarried.uncancelled byWorker interrupt (List.mem_append_left _ h)
  -- The flag of the worker is that of the invocation.
  have hflag : flag ∈ (Course.ofActions convert before).flags := by
    simp [hcourse, Course.flags, Course.worker?]
  obtain hnone | hclaim := Course.claim_mem_of_mem_flags hflag
  · cases hnone
  obtain rfl := hcarried.claimed flag (List.mem_append_left _ hclaim)
  -- The controller was not interrupted when its run ended.
  have hending := hcarried.answered before ending later g past rfl hbefore
  have hunseen : invocation.context.isInterrupted (signals.after past) = false := by
    rw [← Bool.not_eq_true, ExecutionContext.isInterrupted, Signals.isRaised_after, hunraised]
    simpa [ExecutionContext.isInterrupted] using hquiet
  rw [hunseen] at hending
  -- From then on the outcome is fixed.
  have hended : Course.ofActions convert (before ++ .finish ending :: later) =
      .ended (Call.outcomeOf convert ending.result)
        (some (invocation.context.interrupt, false)) := by
    rw [Course.ofActions, List.foldl_append, ← Course.ofActions, hcourse, List.foldl_cons,
      Course.next, Course.foldl_ended]
  rw [hended] at hstands
  have hend := hstands.outcome?_of_ending? rfl
  refine ⟨hstands.told.1, hstands.told.2, _, verdict_iff_outcomeOf.mpr rfl, ?_, fun hrest => ?_⟩
  · rwa [← hending]
  · obtain ⟨outcome, houtcome⟩ := hstands.outcome?_of_atRest hrest
    rw [← hending]
    exact hend.resolve_left (by simp [houtcome])

end Flight

/-- A dispatch that is **performed** comes to the verdict on the controller's run, which is not
interrupted. -/
theorem Dispatch.perform_eq (d : Dispatch) (controller : Controller) (shape : Shape)
    (interrupt : Interrupt) (request : RequestId) :
    d.perform controller shape interrupt request =
      (some (Call.outcomeOf shape.convert
          (controller.execute (d.invocation interrupt request) false).ending.result),
        controller.execute (d.invocation interrupt request) false) :=
  rfl

/-- The outcome of a queued call **is as direct** as the ending of a direct call, in either
shape. -/
inductive AsDirect : Shape → Ending → CallOutcome Reply → Prop
  /-- The whole response is the response itself. -/
  | full {response : Response} : ¬ response.ReportsCancellation →
      AsDirect .full (.returned response) (.completed (.full response))
  /-- The document is that of the response. -/
  | document {response : Response} : ¬ response.ReportsCancellation →
      AsDirect .document (.returned response) (.completed (.document response.node))
  /-- A response that reports a cancellation makes the call cancelled. -/
  | reported {shape : Shape} {response : Response} : response.ReportsCancellation →
      AsDirect shape (.returned response) .cancelled
  /-- A fault is the same fault. -/
  | failed {shape : Shape} (fault : Fault) : AsDirect shape (.failed fault) (.failed fault)
  /-- A panic is a failed execution. -/
  | panicked {shape : Shape} (panic : Panic) :
      AsDirect shape (.panicked panic) (.failed (.execution "panic" panic.message))

/-- The verdict on a run is as direct as its ending. -/
theorem AsDirect.of_verdict {shape : Shape} {ending : Ending} {outcome : CallOutcome Reply}
    (h : Verdict shape.convert ending outcome) : AsDirect shape ending outcome := by
  cases h with
  | reported hreported => exact .reported hreported
  | completed hunreported =>
      cases shape with
      | document => exact .document hunreported
      | full => exact .full hunreported
  | failed fault => exact .failed fault
  | panicked panic => exact .panicked panic

namespace Client

variable {σ : Type} {client : Client} {supplier : Supplier σ} {caller : CallContext}
  {operation : Operation} {state after : σ} {d : Dispatch} {events : List Log.Event}

/-- An asynchronous call that is accepted hands over what is captured. -/
theorem capture_of_submit
    (h : client.submit supplier caller operation state = (.ok (d, events), after)) :
    client.capture supplier caller operation state = (d, after) := by
  unfold submit at h
  split at h
  · obtain ⟨hd, rfl⟩ := Prod.mk.inj h
    obtain ⟨rfl, -⟩ := Prod.mk.inj (Except.ok.inj hd)
    rfl
  · cases h

/-- A direct call is given what a queued one captures. -/
theorem prepare_of_submit
    (h : client.submit supplier caller operation state = (.ok (d, events), after))
    (interrupt : Interrupt) (request : RequestId) :
    client.prepare supplier caller operation interrupt request state =
      (d.invocation interrupt request, after) := by
  simp only [prepare, capture_of_submit h, Dispatch.directInvocation_eq]

/-- **Direct and queued calls agree**: whatever the caller, the operation and the state of the
supplier, and however a queued call is carried out, in either shape, the controller is given the
same operation, identity and boundary marker as in a direct call, once and not interrupted. It
answers the same, and the outcome of the queued call is as direct as that answer's ending. -/
theorem paths_agree [BEq ω] {controller : Controller} (hcontroller : controller.IgnoresNumbers)
    (hsubmit : client.submit supplier caller operation state = (.ok (d, events), after))
    {shape : Shape} {actions : List (Action ω)} {f : Flight ω Reply} {effects : List (Effect ω)}
    {signals : Signals} {flag : Interrupt} {request : RequestId} (own : Interrupt)
    (ownRequest : RequestId) (hquiet : signals.isRaised flag = false)
    (hrun : ({} : Flight ω Reply).run? shape.convert actions = some (f, effects))
    (hcarried :
      Flight.CarriedOut controller (d.invocation flag request) signals shape.convert actions) :
    let invocation := (client.prepare supplier caller operation own ownRequest state).1
    let answer := (client.call controller supplier caller operation own ownRequest state).1
    (invocations effects = [flag] ∧
      (d.invocation flag request).operation = invocation.operation ∧
      (d.invocation flag request).context.identity = invocation.context.identity ∧
      (d.invocation flag request).context.inside = invocation.context.inside ∧
      ∀ earlier, earlier <+: effects →
        (d.invocation flag request).context.isInterrupted (signals.after earlier) = false) ∧
    controller.execute (d.invocation flag request) false = answer ∧
    ∃ outcome, AsDirect shape answer.ending outcome ∧
      (f.call.outcome? = none ∨ f.call.outcome? = some outcome) ∧
      (f.AtRest → f.call.outcome? = some outcome) ∧
      (d.perform controller shape flag request).1 = some outcome := by
  have hflag := d.invocation_interrupt flag request
  have hsees (s : Signals) :
      (d.invocation flag request).context.isInterrupted s = s.isRaised flag := by
    rw [ExecutionContext.isInterrupted, hflag]
  obtain ⟨hinvoked, hraised, outcome, hverdict, hsettled, hrest⟩ :=
    Flight.settled_of_carriedOut hrun hcarried ((hsees signals).trans hquiet)
  have hanswer : controller.execute (d.invocation flag request) false =
      controller.execute (d.invocation own ownRequest) false := by
    refine hcontroller _ _ false rfl ?_ ?_ rfl <;>
      rw [Dispatch.invocation, Dispatch.invocation, Dispatch.context_eq, Dispatch.context_eq]
  intro invocation answer
  have hinvocation : invocation = d.invocation own ownRequest :=
    congrArg Prod.fst (prepare_of_submit hsubmit own ownRequest)
  have hdirect : answer = controller.execute (d.invocation flag request) false := by
    rw [hanswer, ← hinvocation]
    rfl
  refine ⟨⟨?_, ?_, ?_, ?_, ?_⟩, hdirect.symm, outcome, ?_, hsettled, hrest, ?_⟩
  · rw [hinvoked, hflag]
  · rw [hinvocation]
    rfl
  · simp only [hinvocation, Dispatch.invocation, Dispatch.context_eq]
  · simp only [hinvocation, Dispatch.invocation, Dispatch.context_eq]
  · rintro earlier ⟨later, rfl⟩
    rw [raises, List.filterMap_append, List.append_eq_nil_iff] at hraised
    rw [hsees, ← Bool.not_eq_true, Signals.isRaised_after, raises, hraised.1]
    simpa using hquiet
  · rw [hdirect]
    exact .of_verdict hverdict
  · rw [Dispatch.perform_eq, verdict_iff_outcomeOf.mp hverdict]

/-- A controller that answers with the document it was given and a stream, and panics outside the
boundary. -/
def guardedController : Controller :=
  ⟨fun invocation _ =>
    ⟨[], if invocation.context.inside then
        .returned ⟨invocation.operation.node, [⟨"s", "text/plain", [7]⟩]⟩
      else .panicked .other⟩⟩

/-- A worker carries a call out while somebody polls and looks. -/
def watchedActions : List (Action Nat) :=
  [.poll 1, .claim ⟨5⟩, .look, .invoke,
    .finish (.returned ⟨.string "read", [⟨"s", "text/plain", [7]⟩]⟩), .settle, .wake, .release,
    .abandon]

/-- A trusted caller's operation comes back whole, whichever path it takes. -/
theorem agreed_watchedActions :
    ∃ d events after f effects outcome,
      (⟨false, true⟩ : Client).submit (.anonymous Unit) .trusted ⟨.string "read", none⟩ () =
          (.ok (d, events), after) ∧
        ({} : Flight Nat Reply).run? Shape.full.convert watchedActions = some (f, effects) ∧
        f.call.outcome? = some outcome ∧
        AsDirect .full
          ((⟨false, true⟩ : Client).call guardedController (.anonymous Unit) .trusted
            ⟨.string "read", none⟩ ⟨8⟩ ⟨1⟩ ()).1.ending outcome ∧
        invocations effects = [⟨5⟩] := by
  obtain ⟨d, events, after, f, effects, hsubmit, hrun, hrest, hanswer, hflag⟩ :
      ∃ d events after f effects,
        (⟨false, true⟩ : Client).submit (.anonymous Unit) .trusted ⟨.string "read", none⟩ () =
            (.ok (d, events), after) ∧
          ({} : Flight Nat Reply).run? Shape.full.convert watchedActions = some (f, effects) ∧
          f.AtRest ∧
          (∀ interrupted, (guardedController.execute (d.invocation ⟨5⟩ ⟨0⟩) interrupted).ending =
            .returned ⟨.string "read", [⟨"s", "text/plain", [7]⟩]⟩) ∧
          (d.invocation ⟨5⟩ ⟨0⟩).context.interrupt = ⟨5⟩ :=
    ⟨_, _, _, _, _, rfl, rfl, ⟨rfl, rfl, by decide⟩, fun _ => rfl, rfl⟩
  have hcarried : Flight.CarriedOut guardedController (d.invocation ⟨5⟩ ⟨0⟩) {} Shape.full.convert
      watchedActions := by
    refine ⟨by simp [watchedActions], by simp [watchedActions, hflag],
      ⟨_, by simp [watchedActions]; rfl⟩, fun before ending later _ _ hsplit _ => ?_⟩
    have hmem : Action.finish ending ∈ watchedActions := by simp [hsplit]
    rw [hanswer]
    simpa [watchedActions] using hmem
  have hignores : guardedController.IgnoresNumbers := by
    intro i j interrupted hoperation _ hinside _
    simp only [guardedController, hoperation, hinside]
  obtain ⟨⟨hinvoked, -⟩, -, outcome, hdirect, -, hdone, -⟩ :=
    paths_agree hignores hsubmit ⟨8⟩ ⟨1⟩ rfl hrun hcarried
  exact ⟨d, events, after, f, effects, outcome, hsubmit, hrun, hdone hrest, hdirect, hinvoked⟩

end Client

end CallGate

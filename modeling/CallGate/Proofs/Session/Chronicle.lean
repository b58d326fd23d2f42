import CallGate.Proofs.Flight.Chronicle
import CallGate.Proofs.Session.Calls

/-!
# The Log of an Asynchronous Call

When an asynchronous call is accepted, the submission is logged before anything else of the call
occurs, and no other submission is that of the call. Everything that is logged for the call later
is logged by its flight, wherever the other moves of the session come in between; so the log of
the call is the account of the actions on it.

## Main results

* `Session.loggedFor_of_run?`: what is logged for a call is what its flight logs.
* `Session.log_of_submission`: what the log of an accepted call tells an auditor.
-/

namespace CallGate

variable {ω : Type}

/-- The event that the flight of an asynchronous call logs, if that is what occurs. -/
def Occurrence.loggedFor? (position : Nat) : Occurrence ω → Option Log.Event
  | happened named (.log event) => if named = position then some event else none
  | _ => none

namespace Session

/-- What is **logged for** an asynchronous call after its submission, in order. -/
def loggedFor (position : Nat) (told : List (Occurrence ω)) : List Log.Event :=
  told.filterMap (Occurrence.loggedFor? position)

/-- What is logged for a call is told by its flight. -/
theorem loggedFor_effectsOf (position : Nat) (told : List (Occurrence ω)) :
    loggedFor position (effectsOf position told) = loggedFor position told := by
  rw [loggedFor, effectsOf, List.filterMap_filter, loggedFor]
  congr 1
  funext o
  cases o with
  | happened named effect =>
      by_cases h : named = position <;> cases effect <;>
        simp [Occurrence.isEffectOf, Occurrence.loggedFor?, h]
  | _ => simp [Occurrence.loggedFor?]

/-- What a ticket tells is logged for its own call. -/
theorem loggedFor_own (t : Ticket ω) (position : Nat) (effects : List (Effect ω)) :
    loggedFor position (effects.map (t.occurrence position)) = logs effects := by
  rw [loggedFor, logs, List.filterMap_map]
  congr 1
  funext effect
  cases effect with
  | log event => simp [Ticket.occurrence, Occurrence.loggedFor?, Effect.logged?]
  | _ => rfl

variable [BEq ω] {s next last : Session ω} {m : Move ω} {new : List (Occurrence ω)}
  {position : Nat}

/-! ### Before and after the submission -/

/-- A submission that is accepted takes the next position. -/
theorem Step.submitted (hstep : Step s m next new) (h : .submitted position ∈ new) :
    position = s.calls.length ∧ position < next.calls.length := by
  cases hstep with
  | accepted =>
      have hposition : position = s.calls.length := by simpa using h
      exact ⟨hposition, by simp [withTicket, hposition]⟩
  | acted =>
      obtain ⟨effect, -, heffect⟩ := List.mem_map.mp h
      cases effect <;> cases heffect
  | _ => simp at h

/-- A step has no effect on a call that has not been submitted. -/
theorem Step.effectsOf_eq_nil (hstep : Step s m next new) (h : s.calls.length ≤ position) :
    effectsOf position new = [] := by
  cases hstep with
  | @acted moved _ ticket _ effects hcall _ =>
      obtain ⟨hlt, -⟩ := List.getElem?_eq_some_iff.mp hcall
      exact effectsOf_other ticket (by omega) effects
  | loggedIn | rebuffed => rw [effectsOf_append, effectsOf_logged]; rfl
  | reported => exact effectsOf_logged _ _
  | _ => rfl

/-- Before a call is submitted, nothing of it has occurred. -/
theorem quiet_before {source : Source} {before : List (Move ω)} {past : List (Occurrence ω)}
    (hrun : ({ source } : Session ω).run? before = some (s, past))
    (h : s.calls.length ≤ position) :
    effectsOf position past = [] ∧ .submitted position ∉ past := by
  refine run?_induction (P := fun _ past s => s.calls.length ≤ position →
    effectsOf position past = [] ∧ .submitted position ∉ past) ?_ [] [] (by simp [effectsOf]) hrun h
  intro _ past s m next new ih hstep hnext
  have hlength := hstep.length_le.2
  obtain ⟨hpast, hunsubmitted⟩ := ih (by omega)
  refine ⟨?_, fun hmem => ?_⟩
  · rw [effectsOf_append, hpast, hstep.effectsOf_eq_nil (by omega), List.append_nil]
  · obtain hmem | hmem := List.mem_append.mp hmem
    · exact hunsubmitted hmem
    · have hlt := (hstep.submitted hmem).2
      omega

/-- After a call is submitted, no other submission is that of the call. -/
theorem unsubmitted_after {later : List (Move ω)} {future : List (Occurrence ω)}
    (hrun : s.run? later = some (last, future)) (h : position < s.calls.length) :
    .submitted position ∉ future := by
  refine (run?_induction (P := fun _ future s => position < s.calls.length ∧
    .submitted position ∉ future) ?_ [] [] ⟨h, by simp⟩ hrun).2
  rintro _ past s m next new ⟨hlt, hpast⟩ hstep
  have hlength := hstep.length_le.2
  refine ⟨by omega, fun hmem => ?_⟩
  obtain hmem | hmem := List.mem_append.mp hmem
  · exact hpast hmem
  · have hposition := (hstep.submitted hmem).1
    omega

/-! ### After the submission -/

/-- In a session, what is logged for a call is what its flight logs. -/
theorem loggedFor_of_run? {t : Ticket ω} {moves : List (Move ω)} {told : List (Occurrence ω)}
    (hcall : s.calls[position]? = some t) (hrun : s.run? moves = some (last, told)) :
    ∃ flight effects,
      t.flight.run? t.shape.convert (actionsOn position moves) = some (flight, effects) ∧
      last.calls[position]? = some { t with flight } ∧
      loggedFor position told = logs effects := by
  obtain ⟨flight, effects, hflight, hlast, htold, -⟩ := effectsOf_of_run? hcall hrun
  refine ⟨flight, effects, hflight, hlast, ?_⟩
  rw [← loggedFor_effectsOf, htold, loggedFor_own]

/-- **The log tells what happened to a call.** When a call is accepted, its submission is logged,
once and before everything else of the call: of which operation, for whom and from where. What is
logged for it afterwards tells an auditor the order of the actions on it, and that order says at
any time who owns the call. -/
theorem log_of_submission {source : Source} {before later : List (Move ω)}
    {past future : List (Occurrence ω)} {client : Client} {caller : Nat} {operation : Operation}
    {handler : MessageHandler} {id : String} {shape : Shape}
    (hbefore : ({ source } : Session ω).run? before = some (s, past))
    (hsubmit : s.step? (.submit client caller operation handler id shape) = some (next, new))
    (haccepted : client.hasExecutor = true)
    (hlater : next.run? later = some (last, future)) :
    ∃ context dispatch submitting, s.callers[caller]? = some context ∧
      (s.captured client context operation).1 = dispatch ∧
      submitting = (⟨.debug, "modelgate::client", "submitting asynchronous call",
        [("operation", .quoted (operation.name.getD "<unnamed>")),
          ("user", .quoted ((dispatch.identity.map Identity.name).getD "<anonymous>")),
          ("in_vm", .flag dispatch.inside)]⟩ : Log.Event) ∧
      new = [.logged submitting, .submitted s.calls.length] ∧
      (.submitted s.calls.length ∉ past ∧ .submitted s.calls.length ∉ future) ∧
      loggedFor s.calls.length (past ++ new) = [] ∧
      (submitting :: loggedFor s.calls.length future).count submitting = 1 ∧
      Audited (actionsOn s.calls.length later) (loggedFor s.calls.length future) ∧
      ∃ t, last.calls[s.calls.length]? = some t ∧
        Located (actionsOn s.calls.length later) t.flight := by
  cases step_of_step? hsubmit with
  | refused _ hnone => simp [haccepted] at hnone
  | @accepted _ _ context _ _ _ _ dispatch sourceState hcaller _ hcaptured =>
      obtain ⟨hpast, hunsubmitted⟩ := quiet_before hbefore (Nat.le_refl _)
      obtain ⟨flight, effects, hflight, hlast, hlogged⟩ :=
        loggedFor_of_run? (withTicket_calls ..) hlater
      obtain ⟨account, hchronicle, hlog⟩ := Flight.chronicle_of_run? hflight
      have haudited : Audited (actionsOn s.calls.length later) account.log := hchronicle.audited
      have hfresh : dispatch.submittedEvent ∉ account.log := fun hmem => by
        obtain ⟨notice, hnotice⟩ := haudited.complete _ hmem
        cases notice <;> simp [Dispatch.submittedEvent, Notice.event] at hnotice
      have hoperation : operation = dispatch.operation :=
        congrArg (fun captured => captured.1.operation) hcaptured
      rw [hlogged, hlog]
      refine ⟨context, dispatch, dispatch.submittedEvent, hcaller, by rw [hcaptured], ?_, rfl,
        ⟨hunsubmitted, ?_⟩, ?_, ?_, haudited, _, hlast, Flight.located_of_run? hflight⟩
      · rw [hoperation]
        rfl
      · exact unsubmitted_after hlater (by simp [withTicket])
      · rw [← loggedFor_effectsOf, effectsOf_append, hpast]
        rfl
      · rw [List.count_cons_self, List.count_eq_zero.mpr hfresh]

/-- A call is submitted by the first caller that has arrived. -/
def loggedMove : Move Nat := .submit ⟨false, true⟩ 0 ⟨.null, none⟩ .logging "logged" .document

/-- The worker is displaced, interrupted and waited for by a second cancel, and then finishes. -/
def loggedMoves : List (Move Nat) :=
  [.act 0 (.claim ⟨0⟩), .act 0 .invoke, .act 0 (.cancel false true), .establish ⟨⟨"alice"⟩, [], {}⟩,
    .act 0 (.cancel false false), .act 0 (.finish (.returned (.success .null))), .act 0 (.resume 0)]

/-- The log of the call says all that, once each, and that the result was discarded. -/
theorem logged_loggedMoves :
    ∃ s past next new last future,
      ({} : Session Nat).run? [.arrive .external] = some (s, past) ∧
        s.step? loggedMove = some (next, new) ∧ next.run? loggedMoves = some (last, future) ∧
        new = [.logged ⟨.debug, "modelgate::client", "submitting asynchronous call",
          [("operation", .quoted "<unnamed>"), ("user", .quoted "<anonymous>"),
            ("in_vm", .flag false)]⟩, .submitted 0] ∧
        loggedFor 0 (past ++ new) = [] ∧
        (loggedFor 0 future).count
          ⟨.debug, "modelgate::client", "interrupting running call", []⟩ = 1 ∧
        (loggedFor 0 future).count
          ⟨.debug, "modelgate::client", "cancel already in progress", []⟩ = 1 ∧
        (loggedFor 0 future).count ⟨.debug, "modelgate::client",
          "discarding result of a call claimed by a canceller", []⟩ = 1 := by
  obtain ⟨s, past, next, new, last, future, hbefore, hsubmit, hlater, hposition, hcaptured⟩ :
      ∃ s past next new last future,
        ({} : Session Nat).run? [.arrive .external] = some (s, past) ∧
          s.step? loggedMove = some (next, new) ∧ next.run? loggedMoves = some (last, future) ∧
          s.calls.length = 0 ∧
          ∀ context, s.callers[0]? = some context →
            (s.captured ⟨false, true⟩ context ⟨.null, none⟩).1 = ⟨none, false, ⟨.null, none⟩⟩ :=
    ⟨_, _, _, _, _, _, rfl, rfl, rfl, rfl, by rintro _ ⟨⟩; rfl⟩
  obtain ⟨_, dispatch, _, hcaller, hdispatch, rfl, hnew, -, hquiet, -, haudited, -⟩ :=
    log_of_submission hbefore hsubmit rfl hlater
  obtain rfl := (hcaptured _ hcaller).symm.trans hdispatch
  rw [hposition] at hnew hquiet haudited
  have hactions : actionsOn 0 loggedMoves =
      [.claim ⟨0⟩, .invoke, .cancel false true, .cancel false false,
        .finish (.returned (.success .null)), .resume 0] := rfl
  have hdisplaced : Displacement (actionsOn 0 loggedMoves) true
      [.cancel false false, .finish (.returned (.success .null)), .resume 0] := by
    rw [hactions]
    exact ⟨⟨0⟩, _, false, ⟨[], rfl, List.forall_mem_nil _, rfl⟩,
      ⟨[.invoke], rfl, List.forall_mem_singleton.mpr rfl, rfl⟩⟩
  refine ⟨s, past, next, new, last, future, hbefore, hsubmit, hlater, hnew, hquiet,
    haudited.interrupting.1 ⟨_, hdisplaced⟩, haudited.joined _ _ hdisplaced,
    haudited.discarded.1 ⟨true, _, hdisplaced, fun hunfinished => ?_⟩⟩
  simp [Unfinished, Action.isFinish] at hunfinished

end Session

end CallGate

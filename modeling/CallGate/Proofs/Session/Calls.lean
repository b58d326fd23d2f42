import CallGate.Proofs.Flight.Standing
import CallGate.Proofs.Session.Step

/-!
# The Calls of a Session

Whatever goes on around it, a call keeps to itself. An asynchronous call goes through the actions
on it as its flight would alone, and its ticket keeps what was captured when the call was made
(`Session.effectsOf_of_run?`). So the controller is invoked for a call once at most, and only with
what was captured (`Session.invocationsFor_of_dispatch`).

## Main results

* `Session.effectsOf_of_run?`: in a session, a call in flight is a run of its own.
* `Session.invocationsFor_of_dispatch`: what the controller is invoked with for a call.
* `Session.invocationsFor_of_unmade`: it is invoked for no call that was not made.
-/

namespace CallGate

variable {ω : Type}

/-! ### Invocations and actions of one call -/

/-- The invocation of the controller for a call, if that is what occurs. -/
def Occurrence.invocationFor? (call : CallName) : Occurrence ω → Option Invocation
  | invoked named invocation => if named = call then some invocation else none
  | _ => none

/-- Whether an occurrence is an effect of the flight of an asynchronous call. -/
def Occurrence.isEffectOf (position : Nat) : Occurrence ω → Bool
  | invoked (.queued named) _ => named == position
  | happened named _ => named == position
  | _ => false

namespace Session

/-- The action on an asynchronous call, if that is how a session moves. -/
def Move.actionOn? (position : Nat) : Move ω → Option (Action ω)
  | act moved action => if moved = position then some action else none
  | _ => none

/-- The **actions** on an asynchronous call in some moves, in order. -/
def actionsOn (position : Nat) (moves : List (Move ω)) : List (Action ω) :=
  moves.filterMap (Move.actionOn? position)

/-- The **invocations** of the controller for a call, in order. -/
def invocationsFor (call : CallName) (told : List (Occurrence ω)) : List Invocation :=
  told.filterMap (Occurrence.invocationFor? call)

/-- The occurrences that are **effects** of the flight of an asynchronous call, in order. -/
def effectsOf (position : Nat) (told : List (Occurrence ω)) : List (Occurrence ω) :=
  told.filter (Occurrence.isEffectOf position)

/-- Whether a call has been **made** in a session. -/
def Made (s : Session ω) : CallName → Prop
  | .direct position => position < s.direct.length
  | .queued position => position < s.calls.length

/-- A move with an action on a call is nothing else. -/
theorem Move.eq_act_of_actionOn? {position : Nat} {m : Move ω} {action : Action ω}
    (h : m.actionOn? position = some action) : m = .act position action := by
  cases m with
  | act moved moving =>
      rw [actionOn?] at h
      split at h
      next hmoved => rw [hmoved, Option.some.inj h]
      next => cases h
  | _ => cases h

/-- The invocations in two parts of what occurred. -/
theorem invocationsFor_append (call : CallName) (told more : List (Occurrence ω)) :
    invocationsFor call (told ++ more) = invocationsFor call told ++ invocationsFor call more :=
  List.filterMap_append

/-- What is logged invokes nothing. -/
@[simp]
theorem invocationsFor_logged (call : CallName) (events : List Log.Event) :
    invocationsFor call (events.map (Occurrence.logged (ω := ω))) = [] := by
  rw [invocationsFor, List.filterMap_map]
  exact List.filterMap_eq_nil_iff.mpr fun _ _ => rfl

/-- A ticket's effects invoke the controller for its own call as often as its flight does. -/
theorem invocationsFor_own (t : Ticket ω) (position : Nat) (effects : List (Effect ω)) :
    invocationsFor (.queued position) (effects.map (t.occurrence position)) =
      (invocations effects).map t.invocation := by
  rw [invocationsFor, invocations, List.filterMap_map, List.map_filterMap]
  congr 1
  funext effect
  cases effect with
  | invoke flag => simp [Ticket.occurrence, Occurrence.invocationFor?, Effect.invoked?]
  | _ => rfl

/-- A ticket's effects invoke the controller for no other call. -/
theorem invocationsFor_other (t : Ticket ω) {position : Nat} {call : CallName}
    (hother : .queued position ≠ call) (effects : List (Effect ω)) :
    invocationsFor call (effects.map (t.occurrence position)) = [] := by
  rw [invocationsFor, List.filterMap_map]
  refine List.filterMap_eq_nil_iff.mpr fun effect _ => ?_
  cases effect with
  | invoke flag => exact if_neg hother
  | _ => rfl

/-- The effects on a call in two parts of what occurred. -/
theorem effectsOf_append (position : Nat) (told more : List (Occurrence ω)) :
    effectsOf position (told ++ more) = effectsOf position told ++ effectsOf position more :=
  List.filter_append ..

/-- What is logged is no effect of a flight. -/
theorem effectsOf_logged (position : Nat) (events : List Log.Event) :
    effectsOf position (events.map (Occurrence.logged (ω := ω))) = [] := by
  refine List.filter_eq_nil_iff.mpr fun o hmem => ?_
  obtain ⟨event, -, rfl⟩ := List.mem_map.mp hmem
  simp [Occurrence.isEffectOf]

/-- What a ticket tells are effects of its own flight. -/
theorem effectsOf_own (t : Ticket ω) (position : Nat) (effects : List (Effect ω)) :
    effectsOf position (effects.map (t.occurrence position)) =
      effects.map (t.occurrence position) := by
  refine List.filter_eq_self.mpr fun o hmem => ?_
  obtain ⟨effect, -, rfl⟩ := List.mem_map.mp hmem
  cases effect <;> exact beq_self_eq_true position

/-- What a ticket tells are effects of no other flight. -/
theorem effectsOf_other (t : Ticket ω) {moved position : Nat} (hother : moved ≠ position)
    (effects : List (Effect ω)) : effectsOf position (effects.map (t.occurrence moved)) = [] := by
  refine List.filter_eq_nil_iff.mpr fun o hmem => ?_
  obtain ⟨effect, -, rfl⟩ := List.mem_map.mp hmem
  cases effect <;> simpa [Ticket.occurrence, Occurrence.isEffectOf] using hother

/-- What the controller is invoked with for an asynchronous call is told by its flight. -/
theorem invocationsFor_effectsOf (position : Nat) (told : List (Occurrence ω)) :
    invocationsFor (.queued position) (effectsOf position told) =
      invocationsFor (.queued position) told := by
  rw [invocationsFor, effectsOf, List.filterMap_filter, invocationsFor]
  congr 1
  funext o
  cases o with
  | invoked call invocation =>
      cases call with
      | direct => simp [Occurrence.isEffectOf, Occurrence.invocationFor?]
      | queued named => by_cases h : named = position <;>
          simp [Occurrence.isEffectOf, Occurrence.invocationFor?, h]
  | _ => simp [Occurrence.invocationFor?]

/-- A synchronous call is made when it is called. -/
theorem made_withDirect (s : Session ω) (sourceState : SourceState) (dispatch : Dispatch)
    (handler : MessageHandler) :
    (s.withDirect sourceState dispatch handler).Made (.direct s.direct.length) := by
  simp [Made, withDirect]

/-- An asynchronous call that is accepted has its ticket. -/
theorem withTicket_calls (s : Session ω) (sourceState : SourceState) (ticket : Ticket ω) :
    (s.withTicket sourceState ticket).calls[s.calls.length]? = some ticket := by
  simp [withTicket]

variable [BEq ω] {s next last : Session ω} {m : Move ω} {new : List (Occurrence ω)}

/-! ### Calls that are made -/

/-- No call is taken back. -/
theorem Step.length_le (hstep : Step s m next new) :
    s.direct.length ≤ next.direct.length ∧ s.calls.length ≤ next.calls.length := by
  cases hstep <;> simp [withHolder, withDirect, withTicket]

/-- A call that was made stays made. -/
theorem Step.made {call : CallName} (hstep : Step s m next new) (hmade : s.Made call) :
    next.Made call := by
  obtain ⟨hdirect, hcalls⟩ := hstep.length_le
  cases call with
  | direct position => exact Nat.lt_of_lt_of_le hmade hdirect
  | queued position => exact Nat.lt_of_lt_of_le hmade hcalls

/-- The controller is invoked for calls that were made, and for a synchronous one only by the
step that makes it. -/
theorem Step.made_of_invocationsFor {call : CallName} (hstep : Step s m next new)
    (hinvoked : invocationsFor call new ≠ []) :
    next.Made call ∧ ∀ position, call = .direct position → ¬ s.Made call := by
  cases hstep with
  | called hcaller hcaptured =>
      have hcall : .direct s.direct.length = call := by
        refine Classical.byContradiction fun hother => hinvoked ?_
        simp [invocationsFor, Occurrence.invocationFor?, hother]
      subst hcall
      exact ⟨made_withDirect .., fun _ _ => Nat.lt_irrefl _⟩
  | @acted position _ ticket _ _ hcall _ =>
      have hcalled : .queued position = call :=
        Classical.byContradiction fun hother =>
          hinvoked (invocationsFor_other ticket hother _)
      subst hcalled
      obtain ⟨hlt, -⟩ := List.getElem?_eq_some_iff.mp hcall
      exact ⟨by simpa [Made] using hlt, fun _ h => by cases h⟩
  | loggedIn | rebuffed =>
      rw [invocationsFor_append, invocationsFor_logged] at hinvoked
      exact absurd rfl hinvoked
  | reported => exact absurd (invocationsFor_logged call _) hinvoked
  | _ => exact absurd rfl hinvoked

/-- The controller is **not invoked for a call that was not made**. -/
theorem invocationsFor_of_unmade {call : CallName} {moves : List (Move ω)}
    {history : List (Occurrence ω)} (hrun : ({} : Session ω).run? moves = some (s, history))
    (hunmade : ¬ s.Made call) : invocationsFor call history = [] := by
  refine run?_induction
    (P := fun _ past s => ¬ s.Made call → invocationsFor call past = []) ?_ [] [] (fun _ => rfl)
    hrun hunmade
  intro _ past s m next new h hstep hunmade
  have hnew : invocationsFor call new = [] :=
    Classical.byContradiction fun hinvoked =>
      hunmade (hstep.made_of_invocationsFor hinvoked).1
  rw [invocationsFor_append, h fun hmade => hunmade (hstep.made hmade), hnew, List.nil_append]

/-- A synchronous call that was made does not invoke the controller again. -/
theorem invocationsFor_of_made {position : Nat} {moves : List (Move ω)}
    {told : List (Occurrence ω)} (hmade : s.Made (.direct position))
    (hrun : s.run? moves = some (last, told)) : invocationsFor (.direct position) told = [] := by
  refine (run?_induction
    (P := fun _ past s => s.Made (.direct position) ∧ invocationsFor (.direct position) past = [])
    ?_ [] [] ⟨hmade, rfl⟩ hrun).2
  rintro _ past s m next new ⟨hmade, hpast⟩ hstep
  have hnew : invocationsFor (.direct position) new = [] :=
    Classical.byContradiction fun hinvoked =>
      (hstep.made_of_invocationsFor hinvoked).2 position rfl hmade
  exact ⟨hstep.made hmade, by rw [invocationsFor_append, hpast, hnew, List.nil_append]⟩

/-! ### Calls in flight -/

/-- A step that is no action on an asynchronous call leaves it alone. -/
theorem Step.untouched {position : Nat} {t : Ticket ω} (hstep : Step s m next new)
    (hcall : s.calls[position]? = some t) (hother : m.actionOn? position = none) :
    next.calls[position]? = some t ∧ effectsOf position new = [] := by
  cases hstep with
  | accepted =>
      obtain ⟨hlt, -⟩ := List.getElem?_eq_some_iff.mp hcall
      exact ⟨by rw [withTicket, List.getElem?_append_left hlt, hcall], rfl⟩
  | @acted moved _ ticket _ _ _ _ =>
      have hne : moved ≠ position := by
        rintro rfl
        simp [Move.actionOn?] at hother
      refine ⟨?_, effectsOf_other ticket hne _⟩
      rw [List.getElem?_set_ne hne, hcall]
  | loggedIn | rebuffed =>
      exact ⟨hcall, by rw [effectsOf_append, effectsOf_logged]; rfl⟩
  | reported => exact ⟨hcall, effectsOf_logged _ _⟩
  | _ => exact ⟨hcall, rfl⟩

/-- An action on an asynchronous call is a step of its flight. -/
theorem Step.flight {position : Nat} {action : Action ω} {t : Ticket ω}
    (hstep : Step s (.act position action) next new) (hcall : s.calls[position]? = some t) :
    ∃ flight effects, t.step? action = some (flight, effects) ∧
      next.calls[position]? = some { t with flight } ∧
      effectsOf position new = effects.map (t.occurrence position) := by
  cases hstep with
  | @acted _ _ ticket flight effects hticket hflight =>
      obtain rfl : ticket = t := Option.some.inj (hticket.symm.trans hcall)
      obtain ⟨hlt, -⟩ := List.getElem?_eq_some_iff.mp hcall
      exact ⟨flight, effects, hflight, List.getElem?_set_self hlt,
        effectsOf_own ticket position effects⟩

/-- A ticket moves by the steps of its flight, and is claimed with its own flag. -/
theorem flight_of_step? {t : Ticket ω} {action : Action ω} {flight : Flight ω Reply}
    {effects : List (Effect ω)} (h : t.step? action = some (flight, effects)) :
    t.flight.step? t.shape.convert action = some (flight, effects) ∧
      ∀ fresh, action = .claim fresh → fresh = t.interrupt := by
  unfold Ticket.step? at h
  split at h
  next fresh =>
    split at h
    next hfresh => exact ⟨h, fun _ hclaim => by rw [← hfresh, Action.claim.inj hclaim]⟩
    next => cases h
  next hnot => exact ⟨h, fun fresh hclaim => absurd hclaim (hnot fresh)⟩

/-- **A call in a session is a run of its own**: the actions on it run as they would on its flight
alone, its ticket keeps everything else, and the session tells of it what its flight does. Every
claim is with the ticket's own flag. -/
theorem effectsOf_of_run? {position : Nat} {t : Ticket ω} {moves : List (Move ω)}
    {told : List (Occurrence ω)} (hcall : s.calls[position]? = some t)
    (hrun : s.run? moves = some (last, told)) :
    ∃ flight effects,
      t.flight.run? t.shape.convert (actionsOn position moves) = some (flight, effects) ∧
      last.calls[position]? = some { t with flight } ∧
      effectsOf position told = effects.map (t.occurrence position) ∧
      ∀ fresh, .claim fresh ∈ actionsOn position moves → fresh = t.interrupt := by
  -- Along the moves: an action on the call is the next step of its flight, any other move leaves
  -- its ticket as it is.
  induction moves generalizing s t told with
  | nil =>
      obtain ⟨rfl, rfl⟩ := Interleaving.run?_nil.mp hrun
      exact ⟨t.flight, [], rfl, hcall, rfl, fun _ h => by cases h⟩
  | cons m rest ih =>
      obtain ⟨next, first, later, hm, hrest, rfl⟩ := Interleaving.run?_cons.mp hrun
      have hstep := step_of_step? hm
      cases haction : m.actionOn? position with
      | none =>
          obtain ⟨hnext, hfirst⟩ := hstep.untouched hcall haction
          obtain ⟨flight, effects, hflight, hlast, hlater, hclaims⟩ := ih hnext hrest
          have hactions : actionsOn position (m :: rest) = actionsOn position rest :=
            List.filterMap_cons_none haction
          rw [hactions, effectsOf_append, hfirst, List.nil_append]
          exact ⟨flight, effects, hflight, hlast, hlater, hclaims⟩
      | some action =>
          obtain rfl := Move.eq_act_of_actionOn? haction
          obtain ⟨middle, new, hmoved, hnext, hfirst⟩ := hstep.flight hcall
          obtain ⟨hmoved, hclaim⟩ := flight_of_step? hmoved
          obtain ⟨flight, effects, hflight, hlast, hlater, hclaims⟩ := ih hnext hrest
          have hactions :
              actionsOn position (.act position action :: rest) =
                action :: actionsOn position rest :=
            List.filterMap_cons_some haction
          refine ⟨flight, new ++ effects, ?_, hlast, ?_, ?_⟩
          · rw [hactions, Flight.run?, hmoved]
            exact Option.map_eq_some_iff.mpr ⟨_, hflight, rfl⟩
          · rw [effectsOf_append, hfirst, hlater, List.map_append]
            rfl
          · rw [hactions]
            intro fresh hmem
            obtain heq | hmem := List.mem_cons.mp hmem
            · exact hclaim fresh heq.symm
            · exact hclaims fresh hmem

/-- In a session the controller is invoked for a call as often as its flight says. -/
theorem flight_of_run? {position : Nat} {t : Ticket ω} {moves : List (Move ω)}
    {told : List (Occurrence ω)} (hcall : s.calls[position]? = some t)
    (hrun : s.run? moves = some (last, told)) :
    ∃ flight effects,
      t.flight.run? t.shape.convert (actionsOn position moves) = some (flight, effects) ∧
      last.calls[position]? = some { t with flight } ∧
      invocationsFor (.queued position) told = (invocations effects).map t.invocation ∧
      ∀ fresh, .claim fresh ∈ actionsOn position moves → fresh = t.interrupt := by
  obtain ⟨flight, effects, hflight, hlast, htold, hclaims⟩ := effectsOf_of_run? hcall hrun
  refine ⟨flight, effects, hflight, hlast, ?_, hclaims⟩
  rw [← invocationsFor_effectsOf, htold, invocationsFor_own]

/-! ### What the controller is invoked with -/

/-- **The controller gets what was captured**: for a call that is dispatched in a session, the
controller is invoked once at most, whatever happens later, and with what the client captured at
that moment. -/
theorem invocationsFor_of_dispatch {call : CallName} {client : Client} {context : CallContext}
    {operation : Operation} {later : List (Move ω)} {future : List (Occurrence ω)}
    (hdispatch : s.Dispatches m call client context operation)
    (hstep : s.step? m = some (next, new)) (hlater : next.run? later = some (last, future)) :
    invocationsFor call (new ++ future) <+:
      [(s.captured client context operation).1.invocation s.signals.fresh.1 ⟨s.requests⟩] := by
  have hstep := step_of_step? hstep
  cases hdispatch with
  | call hcaller =>
      cases hstep with
      | called hcontext hcaptured =>
          obtain rfl := Option.some.inj (hcontext.symm.trans hcaller)
          have hlater := invocationsFor_of_made (made_withDirect ..) hlater
          rw [invocationsFor_append, hlater, hcaptured, Dispatch.directInvocation_eq]
          simp [invocationsFor, Occurrence.invocationFor?]
  | submit hcaller hexecutor =>
      cases hstep with
      | accepted hcontext _ hcaptured =>
          obtain rfl := Option.some.inj (hcontext.symm.trans hcaller)
          obtain ⟨flight, effects, hflight, -, hfuture, hclaims⟩ :=
            flight_of_run? (withTicket_calls ..) hlater
          have hprefix := Flight.invocations_of_claims hflight hclaims
          rw [invocationsFor_append, hfuture, hcaptured]
          exact hprefix.map _
      | refused _ hnone => rw [hexecutor] at hnone; cases hnone

/-- A synchronous call invokes the controller at once. -/
theorem invocationsFor_of_direct {position : Nat} {client : Client} {context : CallContext}
    {operation : Operation}
    (hdispatch : s.Dispatches m (.direct position) client context operation)
    (hstep : s.step? m = some (next, new)) : invocationsFor (.direct position) new ≠ [] := by
  cases hdispatch with
  | call hcaller =>
      cases step_of_step? hstep with
      | called => simp [invocationsFor, Occurrence.invocationFor?]

end Session

end CallGate

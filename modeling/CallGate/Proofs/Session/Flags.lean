import CallGate.Proofs.Flight.Interruption
import CallGate.Proofs.Session.Calls

/-!
# The Flags of Calls

Every call of a session has a flag, which is handed out when the call is made and is shared with
no other call (`Session.Distinct`). The flag of an asynchronous call is raised by its own cancels
only, because its worker claims it with the ticket's own flag; the flag of a synchronous call is
raised by nobody. So whether a controller is interrupted depends on what was done to its own call
(`Session.Recorded`), whatever happens to the others.

## Main results

* `Session.distinct_of_run?`: no two calls share a flag, and only asynchronous calls are
  interrupted.
* `Session.recorded_of_run?`: a ticket in a session is a run of its own from the beginning.
* `Session.isInterrupted_of_run?`: a controller is interrupted by a cancel of its own call only.
-/

namespace CallGate

variable {ω : Type}

/-- Effects hand out no flag. -/
theorem Signals.handedOut_after (s : Signals) (effects : List (Effect ω)) :
    (s.after effects).handedOut = s.handedOut := by
  induction effects generalizing s with
  | nil => rfl
  | cons effect rest ih =>
      rw [after, List.foldl_cons, ← after, ih]
      cases effect with
      | raise flag =>
          rw [apply, raise]
          split <;> rfl
      | _ => rfl

/-- The last element of a list apart, its elements are those of the list without it. -/
theorem getElem?_concat_of_ne {β : Type} {l : List β} {b : β} {n : Nat} (h : n ≠ l.length) :
    (l ++ [b])[n]? = l[n]? := by
  rcases Nat.lt_or_gt_of_ne h with hlt | hgt
  · exact List.getElem?_append_left hlt
  · rw [List.getElem?_eq_none (Nat.le_of_lt hgt), List.getElem?_eq_none]
    rw [List.length_append, List.length_singleton]
    omega

/-- What is read off the elements of a list stays if one of them is replaced by another one that
reads the same. -/
theorem map_getElem?_set {β γ : Type} {read : β → γ} {l : List β} {a b : β} {n : Nat}
    (hold : l[n]? = some a) (hsame : read b = read a) (k : Nat) :
    (l.set n b)[k]?.map read = l[k]?.map read := by
  by_cases hk : n = k
  · subst hk
    obtain ⟨hlt, -⟩ := List.getElem?_eq_some_iff.mp hold
    rw [List.getElem?_set_self hlt, hold, Option.map_some, Option.map_some, hsame]
  · rw [List.getElem?_set_ne hk]

namespace Flight

variable {α : Type} [BEq ω] {convert : Response → α}

/-- A new flight that is claimed with one flag only raises no other. -/
theorem raises_of_claims {actions : List (Action ω)} {f : Flight ω α}
    {effects : List (Effect ω)} {flag raised : Interrupt}
    (hrun : ({} : Flight ω α).run? convert actions = some (f, effects))
    (hclaims : ∀ fresh, .claim fresh ∈ actions → fresh = flag) (hraised : raised ∈ raises effects) :
    raised = flag := by
  rw [(stands_of_run? hrun).raises_eq] at hraised
  obtain ⟨-, hflags⟩ := Course.eq_singleton_of_mem_raised hraised
  have hmem : raised ∈ (Course.ofActions convert actions).flags := by simp [hflags]
  rcases Course.claim_mem_of_mem_flags hmem with hnone | hclaim
  · cases hnone
  · exact hclaims raised hclaim

/-- A run goes on with one more action. -/
theorem run?_concat {f middle last : Flight ω α} {actions : List (Action ω)} {a : Action ω}
    {effects new : List (Effect ω)} (hrun : f.run? convert actions = some (middle, effects))
    (hstep : middle.step? convert a = some (last, new)) :
    f.run? convert (actions ++ [a]) = some (last, effects ++ new) := by
  rw [run?_eq_interleaving] at hrun ⊢
  refine Interleaving.run?_append.mpr ⟨middle, effects, new, hrun, ?_, rfl⟩
  exact Interleaving.run?_cons.mpr ⟨last, new, [], hstep, rfl, List.append_nil new⟩

end Flight

namespace Ticket

variable [BEq ω] {t : Ticket ω} {signals later : Signals} {actions : List (Action ω)}
  {action : Action ω} {flight : Flight ω Reply} {effects : List (Effect ω)}

/-- A ticket is **on record**: its flight has gone through some actions, each claim with its own
flag, and its flag is raised exactly if they have raised it. -/
def OnRecord (t : Ticket ω) (signals : Signals) (actions : List (Action ω)) : Prop :=
  ∃ effects,
    ({} : Flight ω Reply).run? t.shape.convert actions = some (t.flight, effects) ∧
      (∀ fresh, .claim fresh ∈ actions → fresh = t.interrupt) ∧
      (signals.isRaised t.interrupt = true ↔ t.interrupt ∈ raises effects)

/-- A ticket stays on record as long as nobody touches its flag. -/
theorem OnRecord.of_isRaised_eq (h : t.OnRecord signals actions)
    (hsame : later.isRaised t.interrupt = signals.isRaised t.interrupt) :
    t.OnRecord later actions := by
  obtain ⟨effects, hrun, hclaims, hraised⟩ := h
  exact ⟨effects, hrun, hclaims, by rw [hsame, hraised]⟩

/-- An action on a ticket goes on its record, and raises no flag but its own. -/
theorem OnRecord.act (h : t.OnRecord signals actions)
    (hmoved : t.step? action = some (flight, effects)) :
    ({ t with flight } : Ticket ω).OnRecord (signals.after effects) (actions ++ [action]) ∧
      ∀ raised ∈ raises effects, raised = t.interrupt := by
  obtain ⟨past, hrun, hclaims, hraised⟩ := h
  obtain ⟨hstep, hclaim⟩ := Session.flight_of_step? hmoved
  have hrun := Flight.run?_concat hrun hstep
  have hclaims : ∀ fresh, .claim fresh ∈ actions ++ [action] → fresh = t.interrupt := by
    intro fresh hmem
    rcases List.mem_append.mp hmem with hpast | hnew
    · exact hclaims fresh hpast
    · exact hclaim fresh (List.mem_singleton.mp hnew).symm
  have happend : raises (past ++ effects) = raises past ++ raises effects := List.filterMap_append
  refine ⟨⟨past ++ effects, hrun, hclaims, ?_⟩, fun raised hmem => ?_⟩
  · show (signals.after effects).isRaised t.interrupt = true ↔ _
    rw [Signals.isRaised_after, hraised, happend, List.mem_append]
  · refine Flight.raises_of_claims hrun hclaims ?_
    rw [happend]
    exact List.mem_append_right _ hmem

end Ticket

namespace Session

/-- The **flag** of a call. -/
def flag? (s : Session ω) : CallName → Option Interrupt
  | .direct position => s.direct[position]?.map fun call => call.invocation.context.interrupt
  | .queued position => s.calls[position]?.map fun ticket => ticket.interrupt

/-- The flags of a session are **distinct**: no two calls share one, all of them were handed out,
and only those of asynchronous calls are ever raised. -/
structure Distinct (s : Session ω) : Prop where
  apart : ∀ {call other flag}, s.flag? call = some flag → s.flag? other = some flag → call = other
  issued : ∀ {call flag}, s.flag? call = some flag → flag.number < s.signals.handedOut
  raised : ∀ {flag}, s.signals.isRaised flag = true →
    ∃ position, s.flag? (.queued position) = some flag

/-- The calls of a session are **recorded** by the moves that led to it. -/
structure Recorded [BEq ω] (moves : List (Move ω)) (s : Session ω) : Prop where
  onRecord : ∀ {position : Nat} {t : Ticket ω}, s.calls[position]? = some t →
    t.OnRecord s.signals (actionsOn position moves)
  idle : ∀ {position : Nat}, s.calls.length ≤ position → actionsOn position moves = []

variable {s next last : Session ω} {m : Move ω} {moves : List (Move ω)}
  {new told : List (Occurrence ω)} {position : Nat} {t : Ticket ω} {flag : Interrupt}

/-- The flag of an asynchronous call. -/
theorem flag?_queued (hcall : s.calls[position]? = some t) :
    s.flag? (.queued position) = some t.interrupt := by
  rw [flag?, hcall, Option.map_some]

/-- No two tickets have the same flag. -/
theorem Distinct.interrupt_ne {other : Nat} {u : Ticket ω} (h : s.Distinct)
    (hcall : s.calls[position]? = some t) (hother : s.calls[other]? = some u)
    (hne : position ≠ other) : u.interrupt ≠ t.interrupt := by
  intro hsame
  have hflag := flag?_queued hother
  rw [hsame] at hflag
  exact hne (CallName.queued.inj (h.apart (flag?_queued hcall) hflag))

/-- Effects of one call leave the flags of the others as they are. -/
theorem isRaised_after_of_ne {signals : Signals} {effects : List (Effect ω)}
    {own : Interrupt} (hown : ∀ raised ∈ raises effects, raised = own) (hother : flag ≠ own) :
    (signals.after effects).isRaised flag = signals.isRaised flag := by
  rw [Bool.eq_iff_iff, Signals.isRaised_after, or_iff_left]
  exact fun hmem => hother (hown flag hmem)

/-- A move that is no action on a call adds none. -/
theorem actionsOn_concat_of_none (hother : m.actionOn? position = none) :
    actionsOn position (moves ++ [m]) = actionsOn position moves := by
  rw [actionsOn, List.filterMap_append, List.filterMap_cons_none hother]
  exact List.append_nil _

/-- An action on a call comes last. -/
theorem actionsOn_concat_act (action : Action ω) :
    actionsOn position (moves ++ [.act position action]) =
      actionsOn position moves ++ [action] := by
  rw [actionsOn, List.filterMap_append]
  simp [Move.actionOn?, actionsOn]

variable [BEq ω]

/-! ### Flags are handed out -/

/-- How a step **hands out** flags: none, or a new one to a call that is made. -/
theorem Step.flags (hstep : Step s m next new) :
    (∀ call, next.flag? call = s.flag? call) ∧
        next.signals.handedOut = s.signals.handedOut ∨
      ∃ made, s.flag? made = none ∧ next.flag? made = some s.signals.fresh.1 ∧
        (∀ call, call ≠ made → next.flag? call = s.flag? call) ∧
        next.signals.handedOut = s.signals.handedOut + 1 := by
  cases hstep with
  | called =>
      refine .inr ⟨.direct s.direct.length, by simp [flag?], ?_, fun call hother => ?_, rfl⟩
      · simp [flag?, withDirect, Dispatch.directInvocation_eq, Dispatch.invocation_interrupt]
      · cases call with
        | queued position => rfl
        | direct position =>
            have hne : position ≠ s.direct.length := fun h => hother (congrArg _ h)
            rw [flag?, flag?, withDirect, getElem?_concat_of_ne hne]
  | accepted =>
      refine .inr ⟨.queued s.calls.length, by simp [flag?], ?_, fun call hother => ?_, rfl⟩
      · exact flag?_queued (withTicket_calls ..)
      · cases call with
        | direct position => rfl
        | queued position =>
            have hne : position ≠ s.calls.length := fun h => hother (congrArg _ h)
            rw [flag?, flag?, withTicket, getElem?_concat_of_ne hne]
  | answered hcall =>
      refine .inl ⟨fun named => ?_, rfl⟩
      cases named with
      | queued position => rfl
      | direct position =>
          rw [flag?, flag?]
          exact map_getElem?_set hcall (by rfl) position
  | acted hcall =>
      refine .inl ⟨fun named => ?_, Signals.handedOut_after ..⟩
      cases named with
      | direct position => rfl
      | queued position =>
          rw [flag?, flag?]
          exact map_getElem?_set hcall (by rfl) position
  | _ => exact .inl ⟨fun _ => rfl, rfl⟩

/-- A flag that is raised after a step was raised before, or is that of an asynchronous call. -/
theorem Step.isRaised_or (hstep : Step s m next new) (hrecorded : Recorded moves s)
    (hraised : next.signals.isRaised flag = true) :
    s.signals.isRaised flag = true ∨ ∃ position, s.flag? (.queued position) = some flag := by
  cases hstep with
  | @acted moved _ ticket _ effects hcall hmoved =>
      rcases (Signals.isRaised_after s.signals effects flag).mp hraised with hpast | hnew
      · exact .inl hpast
      · obtain rfl := ((hrecorded.onRecord hcall).act hmoved).2 flag hnew
        exact .inr ⟨moved, flag?_queued hcall⟩
  | _ => exact .inl hraised

/-- A step leaves the flags distinct. -/
theorem Step.distinct (hstep : Step s m next new) (hrecorded : Recorded moves s)
    (h : s.Distinct) : next.Distinct := by
  have hpast {flag : Interrupt} (hraised : next.signals.isRaised flag = true) :
      ∃ position, s.flag? (.queued position) = some flag := by
    rcases hstep.isRaised_or hrecorded hraised with hpast | hnew
    · exact h.raised hpast
    · exact hnew
  rcases hstep.flags with ⟨hflags, hcount⟩ | ⟨made, hunmade, hmade, hflags, hcount⟩
  · constructor
    · intro call other flag hcall hother
      rw [hflags] at hcall hother
      exact h.apart hcall hother
    · intro call flag hcall
      rw [hflags] at hcall
      rw [hcount]
      exact h.issued hcall
    · intro flag hraised
      obtain ⟨position, hposition⟩ := hpast hraised
      exact ⟨position, by rw [hflags, hposition]⟩
  · -- Nobody has the new flag yet, because its number was not handed out.
    have hfresh {call : CallName} (hother : call ≠ made) :
        next.flag? call ≠ some s.signals.fresh.1 := by
      intro hcall
      rw [hflags call hother] at hcall
      exact absurd (h.issued hcall) (Nat.lt_irrefl _)
    constructor
    · intro call other flag hcall hother
      by_cases hc : call = made <;> by_cases ho : other = made
      · rw [hc, ho]
      · rw [hc, hmade] at hcall
        rw [← hcall] at hother
        exact absurd hother (hfresh ho)
      · rw [ho, hmade] at hother
        rw [← hother] at hcall
        exact absurd hcall (hfresh hc)
      · rw [hflags call hc] at hcall
        rw [hflags other ho] at hother
        exact h.apart hcall hother
    · intro call flag hcall
      rw [hcount]
      by_cases hc : call = made
      · rw [hc, hmade] at hcall
        rw [← Option.some.inj hcall]
        exact Nat.lt_succ_self _
      · rw [hflags call hc] at hcall
        exact Nat.lt_succ_of_lt (h.issued hcall)
    · intro flag hraised
      obtain ⟨position, hposition⟩ := hpast hraised
      have hold : .queued position ≠ made := by
        rintro rfl
        rw [hunmade] at hposition
        cases hposition
      exact ⟨position, by rw [hflags _ hold, hposition]⟩

/-! ### The record of a ticket -/

/-- A step that is no action on a call, and leaves its ticket and its flag alone, adds nothing to
its record. -/
theorem Recorded.untouched (h : Recorded moves s) (hcall : s.calls[position]? = some t)
    (hother : m.actionOn? position = none)
    (hsame : next.signals.isRaised t.interrupt = s.signals.isRaised t.interrupt) :
    t.OnRecord next.signals (actionsOn position (moves ++ [m])) := by
  rw [actionsOn_concat_of_none hother]
  exact (h.onRecord hcall).of_isRaised_eq hsame

/-- A step leaves the calls recorded. -/
theorem Step.recorded (hstep : Step s m next new) (hdistinct : s.Distinct)
    (h : Recorded moves s) : Recorded (moves ++ [m]) next := by
  cases hstep with
  | @acted moved action ticket flight effects hmoved hflight =>
      obtain ⟨hrecord, hown⟩ := (h.onRecord hmoved).act hflight
      obtain ⟨hlt, -⟩ := List.getElem?_eq_some_iff.mp hmoved
      constructor
      · intro position t hcall
        by_cases hsame : moved = position
        · subst hsame
          rw [List.getElem?_set_self hlt] at hcall
          obtain rfl := Option.some.inj hcall
          rw [actionsOn_concat_act]
          exact hrecord
        · rw [List.getElem?_set_ne hsame] at hcall
          have hne := hdistinct.interrupt_ne hmoved hcall hsame
          exact h.untouched hcall (if_neg hsame) (isRaised_after_of_ne hown hne)
      · intro position hle
        rw [List.length_set] at hle
        have hother : (Move.act moved action).actionOn? position = none := if_neg (by omega)
        rw [actionsOn_concat_of_none hother, h.idle hle]
  | @accepted _ _ _ _ handler id shape dispatch =>
      constructor
      · intro position t hcall
        by_cases hnew : position = s.calls.length
        · subst hnew
          rw [withTicket_calls] at hcall
          obtain rfl := Option.some.inj hcall
          rw [actionsOn_concat_of_none rfl, h.idle (Nat.le_refl _)]
          have hunraised : s.signals.isRaised s.signals.fresh.1 ≠ true := by
            intro hraised
            obtain ⟨position, hposition⟩ := hdistinct.raised hraised
            exact absurd (hdistinct.issued hposition) (Nat.lt_irrefl _)
          exact ⟨[], rfl, fun _ hmem => absurd hmem List.not_mem_nil,
            fun hraised => absurd hraised hunraised, fun hmem => absurd hmem List.not_mem_nil⟩
        · rw [withTicket, getElem?_concat_of_ne hnew] at hcall
          exact h.untouched hcall rfl rfl
      · intro position hle
        rw [withTicket, List.length_append, List.length_singleton] at hle
        rw [actionsOn_concat_of_none rfl, h.idle (by omega)]
  | _ =>
      exact ⟨fun hcall => h.untouched hcall rfl rfl,
        fun hle => (actionsOn_concat_of_none rfl).trans (h.idle hle)⟩

/-! ### Every session -/

/-- **In every session** the flags are distinct, and the calls are recorded. -/
theorem distinct_of_run? {source : Source}
    (hrun : ({ source } : Session ω).run? moves = some (s, told)) :
    s.Distinct ∧ Recorded moves s := by
  refine run?_induction (P := fun before _ s => s.Distinct ∧ Recorded before s)
    (fun ⟨hdistinct, hrecorded⟩ hstep =>
      ⟨hstep.distinct hrecorded hdistinct, hstep.recorded hdistinct hrecorded⟩) [] [] ?_ hrun
  have hnone (call : CallName) : ({ source } : Session ω).flag? call = none := by
    cases call <;> rfl
  refine ⟨⟨fun hcall => ?_, fun hcall => ?_, fun hraised => (nomatch hraised)⟩,
    ⟨fun hcall => ?_, fun _ => rfl⟩⟩
  · rw [hnone] at hcall
    cases hcall
  · rw [hnone] at hcall
    cases hcall
  · simp at hcall

/-- **A controller is interrupted by a cancel of its own call only**: an asynchronous one if a
cancel asked for it in time, a synchronous one never. -/
theorem isInterrupted_of_run? {source : Source}
    (hrun : ({ source } : Session ω).run? moves = some (s, told)) :
    (∀ position t, s.calls[position]? = some t →
      ((t.invocation t.interrupt).context.isInterrupted s.signals = true ↔
        Interrupted t.interrupt (actionsOn position moves))) ∧
    (∀ call ∈ s.direct, call.invocation.context.isInterrupted s.signals = false) := by
  obtain ⟨hdistinct, hrecorded⟩ := distinct_of_run? hrun
  refine ⟨fun position t hcall => ?_, fun call hmem => ?_⟩
  · obtain ⟨effects, hflight, -, hraised⟩ := hrecorded.onRecord hcall
    rw [ExecutionContext.isInterrupted, Ticket.invocation, Dispatch.invocation_interrupt, hraised,
      (Flight.stands_of_run? hflight).raises_eq, interrupted_iff_mem_raised]
  · obtain ⟨position, hlt, rfl⟩ := List.getElem_of_mem hmem
    rw [ExecutionContext.isInterrupted, Bool.eq_false_iff]
    intro hraised
    obtain ⟨queued, hqueued⟩ := hdistinct.raised hraised
    have hdirect : s.flag? (.direct position) =
        some s.direct[position].invocation.context.interrupt := by
      rw [flag?, List.getElem?_eq_getElem hlt, Option.map_some]
    cases hdistinct.apart hdirect hqueued

end Session

end CallGate

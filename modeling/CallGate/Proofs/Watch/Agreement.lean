import CallGate.Proofs.Flight.Standing
import CallGate.Proofs.Watch.Step

/-!
# Everybody Sees the Same Outcome

The slot of a call is written once, so whoever looks at it sees nothing or the outcome. This
module says what each kind of look and of wait may see, before the outcome is in the slot
(`Sighting.Blank`) and afterwards (`Sighting.Agrees`), whatever the other parties do between any
two sections. Nobody sleeps on once there is an outcome (`Watch.Alert`), because the section that
writes the slot wakes all who sleep.

## Main results

* `Watch.agreement_of_run?`: what is seen before and after the outcome, and when a wait may end
  without one.
-/

namespace CallGate

variable {ω α : Type}

/-- A sighting that **agrees** with an outcome: it shows the outcome itself, or the status of a
call that has ended in it. -/
def Sighting.Agrees (outcome : CallOutcome α) : Sighting α → Prop
  | polled ready => ready = some outcome
  | looked status => status = outcome.status ∧ status ≠ .waiting
  | got seen => seen = outcome
  | waited _ status => status = outcome.status ∧ status ≠ .waiting

/-- A **blank** sighting, which shows no outcome. -/
def Sighting.Blank : Sighting α → Prop
  | polled ready => ready = none
  | looked status => status = .waiting
  | got _ => False
  | waited _ status => status = .waiting

/-- What a watcher sees in an outcome agrees with it. -/
theorem Watcher.agrees_sighting (x : Watcher) (outcome : CallOutcome α) :
    (x.sighting outcome).Agrees outcome := by
  unfold sighting
  split
  · rfl
  · exact ⟨rfl, outcome.status_ne_waiting⟩

/-- A watcher has slept through a deadline that has passed. -/
theorem Watcher.reached_of_missed? {x : Watcher} {now deadline : Instant}
    (h : x.missed? now = some deadline) : deadline.reached now = true := by
  unfold missed? at h
  split at h
  · exact (Option.filter_eq_some_iff.mp h).2
  all_goals cases h

/-- A watcher that was woken does not sleep on. -/
theorem Watcher.woken_phase_ne (x : Watcher) : x.woken.phase ≠ .asleep false := by
  obtain ⟨deadline, phase⟩ := x
  cases phase <;> simp [woken]

namespace Flight

variable [BEq ω] {f g : Flight ω α} {action : Action ω}

/-- Once there is an outcome, actions see it. -/
theorem agrees_of_mem_sightings {outcome : CallOutcome α} {s : Sighting α}
    (hdone : f.call.outcome? = some outcome) (hs : s ∈ f.sightings action) :
    s.Agrees outcome := by
  have hstatus : f.call.look.value = outcome.status := Call.status_of_outcome? hdone
  cases action with
  | poll waker =>
      rw [sightings, List.mem_singleton] at hs
      rw [hs, Call.poll_value, hdone]
      exact rfl
  | look | read position =>
      rw [sightings, List.mem_singleton] at hs
      rw [hs]
      exact ⟨hstatus, hstatus ▸ outcome.status_ne_waiting⟩
  | _ => exact absurd hs List.not_mem_nil

/-- Until there is an outcome, actions see none. -/
theorem blank_of_mem_sightings {s : Sighting α} (hwaiting : f.call.outcome? = none)
    (hs : s ∈ f.sightings action) : s.Blank := by
  cases action with
  | poll waker =>
      rw [sightings, List.mem_singleton] at hs
      rw [hs, Call.poll_value, hwaiting]
      exact rfl
  | look | read position =>
      rw [sightings, List.mem_singleton] at hs
      rw [hs]
      exact Call.status_of_waiting hwaiting
  | _ => exact absurd hs List.not_mem_nil

/-- The section that writes the slot wakes all who sleep. -/
theorem Step.wakesWatchers {convert : Response → α} {effects : List (Effect ω)}
    (hstep : Step convert f action g effects) (hwaiting : f.call.outcome? = none)
    (hdone : g.call.outcome? ≠ none) : effects.any Effect.wakesWatchers = true := by
  cases hstep with
  | settled => rfl
  | polled =>
      rw [Call.poll_outcome?] at hdone
      exact absurd hwaiting hdone
  | _ => exact absurd hwaiting hdone

end Flight

namespace Watch

variable [BEq ω] {convert : Response → α} {w next : Watch ω α} {m : Move ω}
  {seen : List (Sighting α)} {outcome : CallOutcome α}

/-! ### One step -/

/-- A step leaves an outcome as it is, and what it sees agrees with it. -/
theorem Step.agrees (hstep : Step convert w m next seen)
    (hdone : w.flight.call.outcome? = some outcome) :
    next.flight.call.outcome? = some outcome ∧ ∀ s ∈ seen, s.Agrees outcome := by
  cases hstep with
  | acted hflight =>
      exact ⟨hflight.outcome?_eq hdone, fun s hs => Flight.agrees_of_mem_sightings hdone hs⟩
  | ticked | began | limited | brokenOff => exact ⟨hdone, List.forall_mem_nil _⟩
  | slept _ hwaiting => simp [hwaiting] at hdone
  | @found _ x found _ hfound =>
      obtain rfl : found = outcome := Option.some.inj (hfound.symm.trans hdone)
      exact ⟨hdone, List.forall_mem_singleton.mpr (x.agrees_sighting found)⟩
  | expired =>
      have hstatus : w.flight.call.status = outcome.status := Call.status_of_outcome? hdone
      exact ⟨hdone, List.forall_mem_singleton.mpr
        ⟨hstatus, hstatus ▸ outcome.status_ne_waiting⟩⟩

/-- A step after which there is no outcome began without one, and sees none. -/
theorem Step.blank (hstep : Step convert w m next seen)
    (hwaiting : next.flight.call.outcome? = none) :
    w.flight.call.outcome? = none ∧ ∀ s ∈ seen, s.Blank := by
  have hbefore : w.flight.call.outcome? = none := by
    cases hdone : w.flight.call.outcome? with
    | none => rfl
    | some outcome => simp [(hstep.agrees hdone).1] at hwaiting
  refine ⟨hbefore, ?_⟩
  cases hstep with
  | acted => exact fun s hs => Flight.blank_of_mem_sightings hbefore hs
  | ticked | began | limited | brokenOff | slept => exact List.forall_mem_nil _
  | found _ hdone => simp [hbefore] at hdone
  | expired => exact List.forall_mem_singleton.mpr (Call.status_of_waiting hbefore)

/-- A wait ends without an outcome only if there is none and the deadline has passed. -/
theorem Step.unsettled_of_waited {deadline : Instant} (hstep : Step convert w m next seen)
    (hs : .waited deadline .waiting ∈ seen) :
    w.flight.call.outcome? = none ∧ deadline.reached w.now = true := by
  have hwaiting : w.flight.call.outcome? = none := by
    cases hdone : w.flight.call.outcome? with
    | none => rfl
    | some outcome => exact absurd rfl ((hstep.agrees hdone).2 _ hs).2
  refine ⟨hwaiting, ?_⟩
  cases hstep with
  | @acted action => cases action <;> simp [Flight.sightings] at hs
  | ticked | began | limited | brokenOff | slept => simp at hs
  | found _ hdone => simp [hwaiting] at hdone
  | expired _ hmissed =>
      obtain ⟨rfl, -⟩ := Sighting.waited.inj (List.mem_singleton.mp hs)
      exact Watcher.reached_of_missed? hmissed

/-! ### Nobody sleeps on -/

/-- Once there is an outcome, **nobody sleeps** who was not woken. -/
def Alert (w : Watch ω α) : Prop :=
  w.flight.call.outcome? ≠ none → ∀ x ∈ w.watchers, x.phase ≠ .asleep false

/-- A step keeps everybody alert. -/
theorem Alert.step (h : w.Alert) (hstep : Step convert w m next seen) : next.Alert := by
  intro hdone
  cases hstep with
  | acted hflight =>
      by_cases hbefore : w.flight.call.outcome? = none
      · rw [hflight.wakesWatchers hbefore hdone]
        intro y hy
        obtain ⟨x, -, rfl⟩ := List.mem_map.mp hy
        exact x.woken_phase_ne
      · dsimp only
        split
        · intro y hy
          obtain ⟨x, -, rfl⟩ := List.mem_map.mp hy
          exact x.woken_phase_ne
        · exact h hbefore
  | ticked | brokenOff => exact h hdone
  | began | limited =>
      exact List.forall_mem_append.mpr ⟨h hdone, List.forall_mem_singleton.mpr (by simp)⟩
  | found | expired => exact forall_mem_set (h hdone) (by simp)
  | slept _ hwaiting => exact absurd hwaiting hdone

/-- Somebody who still waits can look as soon as there is an outcome, and sees it. -/
theorem Alert.look?_eq {position : Nat} {x : Watcher} (h : w.Alert)
    (hdone : w.flight.call.outcome? = some outcome) (hx : w.watchers[position]? = some x)
    (hwaits : x.phase ≠ .through) :
    ∃ next, w.step? convert (.look position) = some (next, [x.sighting outcome]) := by
  have hawake : x.phase ≠ .asleep false := h (by simp [hdone]) x (List.mem_of_getElem? hx)
  have hmay : x.mayLook = true := by
    unfold Watcher.mayLook
    split <;> simp_all
  refine ⟨{ w with watchers := w.watchers.set position { x with phase := .through } }, ?_⟩
  simp only [step?, look?, hx, hmay, if_true, Watcher.look, hdone]

/-! ### Every run -/

/-- After every run of a new call, everybody is alert. -/
theorem alert_of_run? {now : Instant} {moves : List (Move ω)}
    (hrun : ({ now } : Watch ω α).run? convert moves = some (w, seen)) : w.Alert := by
  have hnew : ({ now } : Watch ω α).Alert := fun hdone => absurd rfl hdone
  exact run?_induction (P := fun _ _ w => w.Alert) (fun h hstep => h.step hstep) [] [] hnew hrun

/-- **Single assignment**: a run leaves an outcome as it is, and all that it sees agrees with
it. -/
theorem agrees_of_run? {last : Watch ω α} {moves : List (Move ω)}
    (hrun : w.run? convert moves = some (last, seen))
    (hdone : w.flight.call.outcome? = some outcome) :
    last.flight.call.outcome? = some outcome ∧ ∀ s ∈ seen, s.Agrees outcome := by
  refine run?_induction
    (P := fun _ seen w => w.flight.call.outcome? = some outcome ∧ ∀ s ∈ seen, s.Agrees outcome)
    (fun h hstep => ?_) [] [] ⟨hdone, List.forall_mem_nil _⟩ hrun
  obtain ⟨hdone, hpast⟩ := h
  obtain ⟨hstill, hnew⟩ := hstep.agrees hdone
  exact ⟨hstill, List.forall_mem_append.mpr ⟨hpast, hnew⟩⟩

/-- A run after which there is no outcome has seen none. -/
theorem blank_of_run? {last : Watch ω α} {moves : List (Move ω)}
    (hrun : w.run? convert moves = some (last, seen))
    (hwaiting : last.flight.call.outcome? = none) : ∀ s ∈ seen, s.Blank := by
  refine run?_induction
    (P := fun _ seen w => w.flight.call.outcome? = none → ∀ s ∈ seen, s.Blank)
    (fun h hstep hwaiting => ?_) [] [] (fun _ => List.forall_mem_nil _) hrun hwaiting
  obtain ⟨hbefore, hnew⟩ := hstep.blank hwaiting
  exact List.forall_mem_append.mpr ⟨h hbefore, hnew⟩

/-- **Everybody sees the same outcome.** Once it is in the slot it stays there, whoever moves;
whatever is seen from then on agrees with it, and everybody who still waits can look and sees it.
As long as it is not, no wait for it has ended, no poll was ready, and every status was that of a
call that waits. A wait within a limit ends with that status only at a moment when there is no
outcome and its deadline has passed. -/
theorem agreement_of_run? {now : Instant} {moves : List (Move ω)}
    (hrun : ({ now } : Watch ω α).run? convert moves = some (w, seen)) :
    (∀ outcome, w.flight.call.outcome? = some outcome →
      (∀ later last new, w.run? convert later = some (last, new) →
        last.flight.call.outcome? = some outcome ∧ ∀ s ∈ new, s.Agrees outcome) ∧
      ∀ position x, w.watchers[position]? = some x → x.phase ≠ .through →
        ∃ next, w.step? convert (.look position) = some (next, [x.sighting outcome])) ∧
    (w.flight.call.outcome? = none → ∀ s ∈ seen, s.Blank) ∧
    (∀ m next new deadline, w.step? convert m = some (next, new) →
      .waited deadline .waiting ∈ new →
        w.flight.call.outcome? = none ∧ deadline.reached w.now = true) := by
  refine ⟨fun outcome hdone => ⟨fun later last new hlater => ?_, fun position x hx hwaits => ?_⟩,
    blank_of_run? hrun, fun m next new deadline hstep hs => ?_⟩
  · exact agrees_of_run? hlater hdone
  · exact (alert_of_run? hrun).look?_eq hdone hx hwaits
  · exact (step_of_step? hstep).unsettled_of_waited hs

/-- An instant two seconds after the origin. -/
def twoSeconds : Instant :=
  { Instant.origin with seconds := 2, seconds_ge := by decide, seconds_lt := by decide }

/-- Somebody waits for the outcome, and somebody else for a second, which is over before the
worker has finished. -/
def watchedMoves : List (Move Nat) :=
  [.get, .look 0, .wait (.ofMillis 1000), .look 1, .act (.claim ⟨7⟩), .act .invoke,
    .act (.poll 1), .tick twoSeconds, .expire 1, .act (.finish (.failed .noExecutor)),
    .act .settle]

/-- The one who waits wakes up. Others poll and look, and one waits when it is not needed. -/
def lateMoves : List (Move Nat) :=
  [.look 0, .act (.poll 2), .act .look, .wait (.ofMillis 0), .look 2, .act .wake, .act .release]

/-- The outcome is in the slot before the worker gives the owner lock back, and all that is
seen from then on agrees with it. -/
theorem agrees_lateMoves :
    ∃ w last seen new,
      ({ now := .origin } : Watch Nat Json).run? Response.node watchedMoves = some (w, seen) ∧
        w.flight.call.outcome? = some (.failed .noExecutor) ∧
        w.run? Response.node lateMoves = some (last, new) ∧
        .got (.failed .noExecutor) ∈ new ∧ ∀ s ∈ new, s.Agrees (.failed .noExecutor) := by
  obtain ⟨w, last, seen, new, hrun, hdone, hlater, hgot⟩ : ∃ w last seen new,
      ({ now := .origin } : Watch Nat Json).run? Response.node watchedMoves = some (w, seen) ∧
        w.flight.call.outcome? = some (.failed .noExecutor) ∧
        w.run? Response.node lateMoves = some (last, new) ∧ .got (.failed .noExecutor) ∈ new :=
    ⟨_, _, _, _, rfl, rfl, rfl, .head _⟩
  have hagrees := ((agreement_of_run? hrun).1 _ hdone).1 lateMoves last new hlater
  exact ⟨w, last, seen, new, hrun, hdone, hlater, hgot, hagrees.2⟩

end Watch

end CallGate

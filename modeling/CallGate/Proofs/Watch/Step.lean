import CallGate.Call.Watch
import CallGate.Proofs.Flight.Step

/-!
# The Steps of a Watch

`Watch.step?` computes one step of a call in flight and of those who watch it; `Watch.Step` says
what a step can do. A step of the flight is one of the steps of `Flight.Step`, and every other
step leaves the flight as it is.

## Main results

* `Watch.step_of_step?`: what `step?` computes is a step.
* `Watch.run?_induction`: what every step keeps holds after a run.
-/

namespace CallGate.Watch

variable {ω α : Type} [BEq ω] {convert : Response → α}

/-- The **steps** of a watch: the watch before, the move, the watch after it and what was seen. -/
inductive Step (convert : Response → α) :
    Watch ω α → Move ω → Watch ω α → List (Sighting α) → Prop
  /-- The flight moves; settling its call wakes all who sleep. -/
  | acted {w : Watch ω α} {action : Action ω} {f : Flight ω α} {effects : List (Effect ω)} :
      Flight.Step convert w.flight action f effects →
      Step convert w (.act action)
        { w with
          flight := f
          watchers :=
            if effects.any Effect.wakesWatchers then w.watchers.map .woken else w.watchers }
        (w.flight.sightings action)
  /-- Time goes on. -/
  | ticked {w : Watch ω α} {now : Instant} :
      w.now.reached now = true → Step convert w (.tick now) { w with now } []
  /-- Somebody begins to wait for the outcome. -/
  | began {w : Watch ω α} : Step convert w .get (w.joined none) []
  /-- Somebody begins to wait within a limit. -/
  | limited {w : Watch ω α} {limit : Span} {deadline : Instant} :
      w.now.add? limit = some deadline →
      Step convert w (.wait limit) (w.joined (some deadline)) []
  /-- A wait within a limit is broken off, because its deadline is no instant. -/
  | brokenOff {w : Watch ω α} {limit : Span} :
      w.now.add? limit = none → Step convert w (.wait limit) w []
  /-- A watcher looks and finds an outcome. -/
  | found {w : Watch ω α} {position : Nat} {x : Watcher} {outcome : CallOutcome α} :
      w.watchers[position]? = some x → w.flight.call.outcome? = some outcome →
      Step convert w (.look position)
        { w with watchers := w.watchers.set position { x with phase := .through } }
        [x.sighting outcome]
  /-- A watcher looks, finds no outcome and falls asleep. -/
  | slept {w : Watch ω α} {position : Nat} {x : Watcher} :
      w.watchers[position]? = some x → w.flight.call.outcome? = none →
      Step convert w (.look position)
        { w with watchers := w.watchers.set position { x with phase := .asleep false } } []
  /-- A watcher has slept through its deadline and looks for the last time. -/
  | expired {w : Watch ω α} {position : Nat} {x : Watcher} {deadline : Instant} :
      w.watchers[position]? = some x → x.missed? w.now = some deadline →
      Step convert w (.expire position)
        { w with watchers := w.watchers.set position { x with phase := .through } }
        [.waited deadline w.flight.call.status]

namespace Step

variable {w next : Watch ω α} {seen : List (Sighting α)}

/-- What `act?` computes is a step. -/
theorem of_act? {action : Action ω} (h : w.act? convert action = some (next, seen)) :
    Step convert w (.act action) next seen := by
  obtain ⟨⟨f, effects⟩, hflight, hr⟩ := Option.map_eq_some_iff.mp h
  obtain ⟨rfl, rfl⟩ := Prod.mk.inj hr
  exact .acted (Flight.step_of_step? hflight)

/-- What `look?` computes is a step. -/
theorem of_look? {position : Nat} (h : w.look? position = some (next, seen)) :
    Step convert w (.look position) next seen := by
  unfold look? at h
  split at h
  next => cases h
  next x hx =>
    split at h
    next =>
      obtain ⟨rfl, rfl⟩ := Prod.mk.inj (Option.some.inj h)
      cases hdone : w.flight.call.outcome? with
      | none =>
          simp only [Watcher.look, hdone]
          exact .slept hx hdone
      | some outcome =>
          simp only [Watcher.look, hdone]
          exact .found hx hdone
    next => cases h

/-- What `expire?` computes is a step. -/
theorem of_expire? {position : Nat} (h : w.expire? position = some (next, seen)) :
    Step convert w (.expire position) next seen := by
  unfold expire? at h
  split at h
  next => cases h
  next x hx =>
    obtain ⟨deadline, hmissed, hr⟩ := Option.map_eq_some_iff.mp h
    obtain ⟨rfl, rfl⟩ := Prod.mk.inj hr
    exact .expired hx hmissed

end Step

/-- **One step**, as computed, is one of the steps. -/
theorem step_of_step? {w next : Watch ω α} {m : Move ω} {seen : List (Sighting α)}
    (h : w.step? convert m = some (next, seen)) : Step convert w m next seen := by
  cases m with
  | act action => exact .of_act? h
  | tick now =>
      rw [step?] at h
      split at h
      next hreached =>
        obtain ⟨rfl, rfl⟩ := Prod.mk.inj (Option.some.inj h)
        exact .ticked hreached
      next => cases h
  | get =>
      obtain ⟨rfl, rfl⟩ := Prod.mk.inj (Option.some.inj h)
      exact .began
  | wait limit =>
      rw [step?] at h
      split at h
      next deadline hdeadline =>
        obtain ⟨rfl, rfl⟩ := Prod.mk.inj (Option.some.inj h)
        exact .limited hdeadline
      next hdeadline =>
        obtain ⟨rfl, rfl⟩ := Prod.mk.inj (Option.some.inj h)
        exact .brokenOff hdeadline
  | look position => exact .of_look? h
  | expire position => exact .of_expire? h

/-- **Induction along a run**: what holds of a watch after some moves and sightings, and is kept
by every step, holds after the run. -/
theorem run?_induction {P : List (Move ω) → List (Sighting α) → Watch ω α → Prop}
    (hstep : ∀ {before past w m next new}, P before past w → Step convert w m next new →
      P (before ++ [m]) (past ++ new) next)
    (before : List (Move ω)) (past : List (Sighting α)) {moves : List (Move ω)}
    {seen : List (Sighting α)} {w last : Watch ω α} (hstart : P before past w)
    (hrun : w.run? convert moves = some (last, seen)) :
    P (before ++ moves) (past ++ seen) last :=
  Interleaving.run?_induction (fun h hm => hstep h (step_of_step? hm)) before past hstart hrun

end CallGate.Watch

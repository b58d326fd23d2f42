import CallGate.Proofs.Flight.Standing

/-!
# Nobody Waits for Nothing

A call whose slot is still waiting has somebody who will settle it (`Flight.Expected`): its
task, the worker that has claimed it, or a cancel that was parked and knows that the worker has
left. A cancel that is parked and does not know waits for a worker that is still there.

The parties of a flight — its task, the cancels that were begun and whoever holds the owner
lock — advance by actions of their own (`Action.advances`); newcomers cancel, and observers poll
and look. The parties neither block each other nor go on for ever, as long as the controller comes
to an end once it runs, and no cancel is the worker's own: a worker that waits for itself is never
through.

* The owner lock is held by exactly that cancel which is about to settle (`Flight.Seated`), so
  that where it is free every cancel can move.
* What is left to do (`Flight.left`) is counted, and every action of a party lowers the count.

## Main results

* `Flight.atRest_or_canAdvance`: a flight that is not at rest can advance.
* `Flight.left_of_run?`: only so many actions can advance a flight.
* `Flight.waiting_of_run?`: who is waited for, at any moment, and that there is an outcome once
  nobody is.
-/

namespace CallGate

variable {ω α : Type}

/-- The actions by which the parties of a flight **advance**. -/
def Action.advances : Action ω → Bool
  | cancel _ _ | poll _ | look => false
  | _ => true

/-- The position of a cancel. -/
def Party.position? : Party → Option Nat
  | canceller position => some position
  | _ => none

/-- A notified cancel is about to settle if it was before. -/
@[simp]
theorem Cancel.notified_phase_eq_settling {c : Cancel} :
    c.notified.phase = .settling ↔ c.phase = .settling := by
  obtain ⟨byWorker, interrupt, phase⟩ := c
  cases phase <;> simp [notified]

/-- A notified cancel is by whom it was. -/
@[simp]
theorem Cancel.notified_byWorker (c : Cancel) : c.notified.byWorker = c.byWorker := by
  obtain ⟨byWorker, interrupt, phase⟩ := c
  cases phase <;> rfl

namespace Flight

/-- No cancel of the call is the worker's own. -/
def Outside (f : Flight ω α) : Prop := ∀ c ∈ f.cancels, c.byWorker = false

/-- The position of the cancel that **holds** the owner lock. -/
def holder? (f : Flight ω α) : Option Nat := f.lock.bind fun tenure => tenure.party.position?

/-- The phase of a cancel. -/
def phase? (f : Flight ω α) (position : Nat) : Option CancelPhase :=
  f.cancels[position]?.map Cancel.phase

/-- The cancel that is about to settle is the one that holds the owner lock. -/
def Seated (f : Flight ω α) : Prop :=
  ∀ position, f.phase? position = some .settling ↔ f.holder? = some position

/-- The cancel that holds the owner lock is about to settle. -/
theorem Seated.exists_of_holder {f : Flight ω α} {position : Nat} {duty : Duty ω α}
    (h : f.Seated) (hlock : f.lock = some ⟨.canceller position, duty⟩) :
    ∃ c, f.cancels[position]? = some c ∧ c.phase = .settling := by
  have hholder : f.holder? = some position := by rw [holder?, hlock]; rfl
  exact Option.map_eq_some_iff.mp ((h position).mpr hholder)

/-- An element that is changed is replaced. -/
theorem modify_eq_set_of_getElem? {β : Type} {l : List β} {n : Nat} {b : β} (change : β → β)
    (hb : l[n]? = some b) : l.modify n change = l.set n (change b) := by
  apply List.ext_getElem?
  intro k
  rw [List.getElem?_modify, List.getElem?_set]
  by_cases hk : n = k
  · subst hk
    obtain ⟨hn, rfl⟩ := List.getElem?_eq_some_iff.mp hb
    simp [hn]
  · simp [hk]

/-- Who is about to settle when one more cancel was begun. -/
theorem phase_concat {cancels : List Cancel} {c : Cancel} {position : Nat} :
    (cancels ++ [c])[position]?.map Cancel.phase = some .settling ↔
      cancels[position]?.map Cancel.phase = some .settling ∨
        position = cancels.length ∧ c.phase = .settling := by
  obtain hlt | rfl | hgt := Nat.lt_trichotomy position cancels.length
  · rw [List.getElem?_append_left hlt]
    exact ⟨.inl, fun h => h.resolve_right fun heq => Nat.ne_of_lt hlt heq.1⟩
  · simp
  · have hnone : cancels[position]? = none := List.getElem?_eq_none (Nat.le_of_lt hgt)
    rw [List.getElem?_append_right (Nat.le_of_lt hgt), hnone, List.getElem?_eq_none]
    · simp [Nat.ne_of_gt hgt]
    · simp only [List.length_singleton]
      omega

/-- Who is about to settle when one of the cancels has moved. -/
theorem phase_set {cancels : List Cancel} {c moved : Cancel} {position k : Nat}
    (hc : cancels[k]? = some c) :
    (cancels.set k moved)[position]?.map Cancel.phase = some .settling ↔
      position = k ∧ moved.phase = .settling ∨
        position ≠ k ∧ cancels[position]?.map Cancel.phase = some .settling := by
  obtain ⟨hk, -⟩ := List.getElem?_eq_some_iff.mp hc
  by_cases hposition : position = k
  · subst hposition
    simp [hk]
  · rw [List.getElem?_set_ne (Ne.symm hposition)]
    simp [hposition]

variable [BEq ω] {convert : Response → α} {f g : Flight ω α} {a : Action ω}
  {new : List (Effect ω)}

/-- A step keeps the lock and the cancels together. -/
theorem Seated.step (h : f.Seated) (hstep : Step convert f a g new) : g.Seated := by
  intro position
  have hposition := h position
  unfold holder? phase? at hposition ⊢
  cases hstep with
  | claimed hfree | refused hfree => simpa [hfree] using hposition
  | invoked | polled | looked => exact hposition
  | finished hfree | rejected hfree => simpa [hfree, Party.position?] using hposition
  | departed hfree => simpa [hfree] using hposition
  | discarded hfree => simpa [hfree, Function.comp_def] using hposition
  | vacated hlock => simpa [hlock, Party.position?, Function.comp_def] using hposition
  | preempted hfree =>
      rw [phase_concat]
      simp only [hfree, Option.bind_none, Option.bind_some, Party.position?] at hposition ⊢
      simp [hposition, eq_comm]
  | displacing hfree | joined hfree =>
      rw [phase_concat]
      simp only [hfree, Option.bind_none] at hposition ⊢
      simp [hposition]
  | stayed hfree hcancel =>
      rw [phase_set hcancel]
      simp only [hfree, Option.bind_none] at hposition ⊢
      simp [hposition]
  | resumed hfree hcancel =>
      rw [phase_set hcancel]
      simp only [hfree, Option.bind_none, Option.bind_some, Party.position?] at hposition ⊢
      simp [hposition, eq_comm]
  | settled hlock | ignored hlock | woke hlock => simpa [hlock] using hposition
  | letGo hlock => simpa [hlock, Party.position?] using hposition
  | released hlock =>
      obtain ⟨c, hc, -⟩ := h.exists_of_holder hlock
      rw [modify_eq_set_of_getElem? _ hc, phase_set hc]
      simp only [hlock, Option.bind_none, Option.bind_some, Party.position?] at hposition ⊢
      simp [hposition, eq_comm]
  | @answered answering _ _ hcancel =>
      -- The cancel that reads its answer does not hold the lock, which others may.
      have hother : f.holder? ≠ some answering := by
        intro hheld
        have hphase := (h answering).mpr hheld
        simp [phase?, hcancel] at hphase
      rw [phase_set hcancel]
      constructor
      · rintro (⟨-, hphase⟩ | ⟨-, hphase⟩)
        · cases hphase
        · exact hposition.mp hphase
      · intro hheld
        refine .inr ⟨?_, hposition.mpr hheld⟩
        rintro rfl
        exact hother hheld

/-- The worker stays out of the cancels when a flight advances. -/
theorem Outside.step (h : f.Outside) (hstep : Step convert f a g new)
    (hadvances : a.advances = true) : g.Outside := by
  cases hstep with
  | preempted | displacing | joined | polled | looked => simp [Action.advances] at hadvances
  | discarded | vacated =>
      intro d hd
      obtain ⟨c, hc, rfl⟩ := List.mem_map.mp hd
      rw [Cancel.notified_byWorker]
      exact h c hc
  | stayed _ hcancel | resumed _ hcancel | answered hcancel =>
      have hc := h _ (List.mem_of_getElem? hcancel)
      exact forall_mem_set h hc
  | released => exact forall_mem_modify h h
  | _ => exact h

end Flight

/-! ### What is left to do -/

/-- How much is **left** to a task. -/
def TaskPhase.left : TaskPhase → Nat
  | queued => 4
  | claimed _ => 3
  | running _ => 2
  | leaving => 1
  | gone => 0

/-- How much is **left** to a cancel. -/
def CancelPhase.left : CancelPhase → Nat
  | parked _ => 3
  | settling => 2
  | reading => 1
  | answered _ => 0

/-- How much is **left** to the holder of the owner lock. -/
def Duty.left : Duty ω α → Nat
  | settle _ => 2
  | wake wakers => 1 + wakers.length

/-- As much is left to a cancel when it is notified. -/
@[simp]
theorem Cancel.notified_left (c : Cancel) : c.notified.phase.left = c.phase.left := by
  obtain ⟨byWorker, interrupt, phase⟩ := c
  cases phase <;> rfl

namespace Flight

/-- How much is **left** to some cancels. -/
def cancelsLeft : List Cancel → Nat
  | [] => 0
  | c :: rest => c.phase.left + cancelsLeft rest

/-- As much is left to cancels when they are notified. -/
@[simp]
theorem cancelsLeft_map_notified (cancels : List Cancel) :
    cancelsLeft (cancels.map .notified) = cancelsLeft cancels := by
  induction cancels with
  | nil => rfl
  | cons c rest ih => rw [List.map_cons, cancelsLeft, cancelsLeft, ih, Cancel.notified_left]

/-- What is left to the cancels, when one of them has moved. -/
theorem cancelsLeft_set {cancels : List Cancel} {position : Nat} {c : Cancel} (moved : Cancel)
    (hc : cancels[position]? = some c) :
    cancelsLeft (cancels.set position moved) + c.phase.left =
      cancelsLeft cancels + moved.phase.left := by
  induction cancels generalizing position with
  | nil => simp at hc
  | cons first rest ih =>
      cases position with
      | zero =>
          obtain rfl : first = c := by simpa using hc
          rw [List.set_cons_zero, cancelsLeft, cancelsLeft]
          omega
      | succ position =>
          have hrest : rest[position]? = some c := by simpa using hc
          have hleft := ih hrest
          rw [List.set_cons_succ, cancelsLeft, cancelsLeft]
          omega

/-- How much is **left** to the parties of a flight: a phase of a task or of a cancel is worth
more than taking the owner lock, and a waker counts until it is woken. -/
def left (f : Flight ω α) : Nat :=
  3 * (f.task.left + cancelsLeft f.cancels) +
    ((f.lock.map fun tenure => tenure.duty.left).getD 0 + f.call.wakers.length)

variable {f g : Flight ω α} {effects : List (Effect ω)} {course : Course α}

/-- A cancel that was notified waits no longer for a worker. -/
theorem Stands.owner_ne_of_notified {c : Cancel} (h : Stands course effects f)
    (hfree : f.lock = none) (hc : c ∈ f.cancels) (hphase : c.phase = .parked true)
    (flag : Interrupt) (raised : Bool) : f.call.owner ≠ .canceller flag raised := by
  cases course with
  | untouched => simp [h.owner]
  | claimed flag => simp [h.owner]
  | displaced flag asked => simp [h.parked c hc] at hphase
  | ended outcome worker => simp [Fixed.vacated h hfree]

variable [BEq ω] {convert : Response → α} {a : Action ω} {new : List (Effect ω)}

/-- A party that advances leaves less to do. -/
theorem left_lt_of_step (hstands : Stands course effects f) (hseated : f.Seated)
    (hstep : Step convert f a g new) (hadvances : a.advances = true) : g.left < f.left := by
  unfold left
  cases hstep with
  | preempted | displacing | joined | polled | looked => simp [Action.advances] at hadvances
  | claimed hfree htask | refused hfree htask =>
      simp [hfree, htask, TaskPhase.left, Call.wakers]
  | invoked htask => simp [htask, TaskPhase.left]
  | finished hfree htask => simp [hfree, htask, TaskPhase.left, Duty.left]; omega
  | departed hfree htask =>
      obtain htask | htask := htask <;> simp [hfree, htask, TaskPhase.left]
  | rejected hfree htask =>
      obtain htask | htask := htask <;>
        simp [hfree, htask, TaskPhase.left, Duty.left, Call.wakers] <;> omega
  | discarded hfree htask =>
      simp [hfree, htask, TaskPhase.left, Duty.left, Call.wakers]
  | vacated hlock => simp [hlock, Duty.left, Call.wakers]
  | stayed hfree hcancel howner =>
      exact absurd howner
        (hstands.owner_ne_of_notified hfree (List.mem_of_getElem? hcancel) rfl _ _)
  | @resumed _ byWorker interrupt hfree hcancel =>
      have hleft : _ + 3 = _ + 2 := cancelsLeft_set ⟨byWorker, interrupt, .settling⟩ hcancel
      simp only [hfree, Duty.left, Option.map_none, Option.map_some, Option.getD_none,
        Option.getD_some]
      omega
  | settled hlock hslot => simp [hlock, Call.wakers, Duty.left, hslot]
  | ignored hlock hslot => simp [hlock, Call.wakers, Duty.left, hslot]
  | woke hlock => simp [hlock, Duty.left]
  | letGo hlock => simp [hlock, Duty.left]
  | released hlock =>
      obtain ⟨c, hc, hphase⟩ := hseated.exists_of_holder hlock
      have hleft := cancelsLeft_set { c with phase := .reading } hc
      rw [hphase] at hleft
      have hleft : _ + 2 = _ + 1 := hleft
      rw [modify_eq_set_of_getElem? _ hc]
      simp only [hlock, Duty.left, Option.map_none, Option.map_some, Option.getD_none,
        Option.getD_some, List.length_nil]
      omega
  | @answered _ byWorker interrupt hcancel =>
      have hleft : _ + 1 = _ + 0 :=
        cancelsLeft_set ⟨byWorker, interrupt, .answered (f.call.status == .cancelled)⟩ hcancel
      dsimp only
      omega

/-! ### Going on -/

/-- Some party **can advance** the flight. A worker that is not in a cancel of its own can, because
its controller may come to an end. That it will is assumed of the controller, not proved: one that
waits for its own call, or for a cancel of it that it has left to another thread, never does. -/
def CanAdvance (convert : Response → α) (f : Flight ω α) : Prop :=
  ∃ a : Action ω, a.advances = true ∧ (f.step? convert a).isSome = true

/-- Whoever holds the owner lock can go on. -/
theorem canAdvance_of_held {tenure : Tenure ω α} (hlock : f.lock = some tenure) :
    f.CanAdvance convert := by
  obtain ⟨party, duty⟩ := tenure
  cases duty with
  | settle outcome => exact ⟨.settle, rfl, by simp [step?, settle?, hlock]⟩
  | wake wakers =>
      cases wakers with
      | nil => cases party <;> exact ⟨.release, rfl, by simp [step?, release?, hlock]⟩
      | cons waker rest => exact ⟨.wake, rfl, by simp [step?, wake?, hlock]⟩

/-- A task that is not gone can go on where the owner lock is free, unless the worker waits for
itself. A running controller goes on by coming to an end, which is assumed of it. -/
theorem canAdvance_of_task (hfree : f.lock = none) (houtside : f.Outside)
    (htask : f.task ≠ .gone) : f.CanAdvance convert := by
  cases hphase : f.task with
  | queued => exact ⟨.abandon, rfl, by simp [step?, abandon?, hfree, hphase]⟩
  | claimed flag => exact ⟨.invoke, rfl, by simp [step?, invoke?, hphase]⟩
  | running flag =>
      have hworker : f.workerCancelling = false :=
        List.any_eq_false.mpr fun c hc => by simp [houtside c hc]
      refine ⟨.finish (.panicked .other), rfl, ?_⟩
      simp [step?, finish?, hfree, hphase, TaskPhase.isRunning, hworker]
  | leaving => exact ⟨.abandon, rfl, by simp [step?, abandon?, hfree, hphase]⟩
  | gone => exact absurd hphase htask

/-- A cancel without an answer can go on where the owner lock is free and the task is gone. -/
theorem canAdvance_of_cancel {c : Cancel} (hstands : Stands course effects f)
    (hseated : f.Seated) (hfree : f.lock = none) (hgone : f.task = .gone) (hc : c ∈ f.cancels)
    (hanswer : c.answer? = none) : f.CanAdvance convert := by
  obtain ⟨position, hposition⟩ := List.getElem?_of_mem hc
  obtain ⟨byWorker, interrupt, phase⟩ := c
  cases phase with
  | parked notified =>
      cases notified with
      | false =>
          obtain ⟨flag, asked, rfl⟩ := hstands.displaced_of_parked hc rfl
          have hworking := hstands.working
          simp [hgone, TaskPhase.flag?] at hworking
      | true => exact ⟨.resume position, rfl, by simp [step?, resume?, hposition, hfree]⟩
  | settling =>
      have hholder := (hseated position).mp (by rw [phase?, hposition]; rfl)
      simp [holder?, hfree] at hholder
  | reading => exact ⟨.read position, rfl, by simp [step?, read?, hposition]⟩
  | answered cancelled => simp [Cancel.answer?] at hanswer

/-- **No deadlock** among the parties of a call, as long as its controller comes to an end: a flight
is at rest or can advance. -/
theorem atRest_or_canAdvance (hstands : Stands course effects f) (hseated : f.Seated)
    (houtside : f.Outside) : f.AtRest ∨ f.CanAdvance convert := by
  cases hlock : f.lock with
  | some tenure => exact .inr (canAdvance_of_held hlock)
  | none =>
      by_cases hgone : f.task = .gone
      · by_cases hpending : ∃ c ∈ f.cancels, c.answer? = none
        · obtain ⟨c, hc, hanswer⟩ := hpending
          exact .inr (canAdvance_of_cancel hstands hseated hlock hgone hc hanswer)
        · refine .inl ⟨hgone, hlock, fun c hc => ?_⟩
          cases hanswer : c.answer? with
          | none => exact absurd ⟨c, hc, hanswer⟩ hpending
          | some answer => rfl
      · exact .inr (canAdvance_of_task hlock houtside hgone)

/-- **No livelock**: each action that advances a flight takes from what is left, and when no
more can follow, the flight is at rest. -/
theorem left_of_run? {actions : List (Action ω)} (hstands : Stands course effects f)
    (hseated : f.Seated) (houtside : f.Outside) (hadvance : ∀ a ∈ actions, a.advances = true)
    (hrun : f.run? convert actions = some (g, new)) :
    actions.length + g.left ≤ f.left ∧ (g.AtRest ∨ g.CanAdvance convert) := by
  have hkept := run?_induction
    (P := fun done told g => (∀ a ∈ done, a.advances = true) →
      (∃ course, Stands course told g) ∧ g.Seated ∧ g.Outside ∧ done.length + g.left ≤ f.left)
    (fun hbefore hstep hadvance => by
      obtain ⟨hdone, ha⟩ := List.forall_mem_append.mp hadvance
      have ha := ha _ (List.mem_singleton_self _)
      obtain ⟨⟨_, hstands⟩, hseated, houtside, hless⟩ := hbefore hdone
      have hlast := left_lt_of_step hstands hseated hstep ha
      refine ⟨⟨_, hstands.step hstep⟩, hseated.step hstep, houtside.step hstep ha, ?_⟩
      rw [List.length_append, List.length_singleton]
      omega)
    [] effects (fun _ => ⟨⟨course, hstands⟩, hseated, houtside, by simp⟩) hrun
  obtain ⟨⟨_, hstands⟩, hseated, houtside, hleft⟩ := hkept hadvance
  exact ⟨hleft, atRest_or_canAdvance hstands hseated houtside⟩

/-! ### Every run -/

/-- After every run the cancel that is about to settle holds the owner lock. -/
theorem seated_of_run? {actions : List (Action ω)}
    (hrun : ({} : Flight ω α).run? convert actions = some (f, effects)) : f.Seated := by
  have hnew : ({} : Flight ω α).Seated := fun position => by simp [phase?, holder?]
  exact run?_induction (P := fun _ _ f => f.Seated) (fun h hstep => h.step hstep) [] [] hnew hrun

/-- **Nobody waits for nothing.** Where the owner lock is free, somebody is expected to settle a
waiting slot, and a cancel that is parked and not notified waits for a worker that has not
finished. At rest there is an outcome; and unless the worker waits for itself, the parties of a
controller that comes to an end get there by as many actions as are left, whatever their order. -/
theorem waiting_of_run? {actions : List (Action ω)}
    (hrun : ({} : Flight ω α).run? convert actions = some (f, effects)) :
    (f.lock = none → f.call.outcome? = none → f.Expected) ∧
    (f.lock = none → ∀ c ∈ f.cancels, c.phase = .parked false →
      ∃ flag raised, f.call.owner = .canceller flag raised ∧ f.task.flag? = some flag) ∧
    (f.AtRest → ∃ outcome, f.call.outcome? = some outcome) ∧
    (f.Outside → ∀ later g new, (∀ a ∈ later, a.advances = true) →
      f.run? convert later = some (g, new) →
        later.length + g.left ≤ f.left ∧ (g.AtRest ∨ g.CanAdvance convert)) := by
  have hstands := stands_of_run? hrun
  have hseated := seated_of_run? hrun
  refine ⟨hstands.expected, fun _ c hc hparked => ?_, hstands.outcome?_of_atRest, ?_⟩
  · obtain ⟨flag, asked, hcourse⟩ := hstands.displaced_of_parked hc hparked
    rw [hcourse] at hstands
    exact ⟨flag, asked, hstands.owner, hstands.working⟩
  · intro houtside later g new hadvance hlater
    exact left_of_run? hstands hseated houtside hadvance hlater

/-- A worker was displaced and its task has gone away; of the two cancels that waited for it,
neither has settled the call yet. -/
def leaderlessActions : List (Action Nat) :=
  [.claim ⟨7⟩, .cancel false false, .invoke, .poll 1, .cancel false true,
    .finish (.failed .noExecutor), .abandon]

/-- One of the two is expected to settle the call. -/
theorem expected_leaderlessActions :
    ∃ f effects,
      ({} : Flight Nat Json).run? Response.node leaderlessActions = some (f, effects) ∧
        f.lock = none ∧ f.call.outcome? = none ∧ f.task = .gone ∧ f.Expected := by
  obtain ⟨f, effects, hrun, hfree, hwaiting, hgone⟩ : ∃ f effects,
      ({} : Flight Nat Json).run? Response.node leaderlessActions = some (f, effects) ∧
        f.lock = none ∧ f.call.outcome? = none ∧ f.task = .gone :=
    ⟨_, _, rfl, rfl, rfl, rfl⟩
  exact ⟨f, effects, hrun, hfree, hwaiting, hgone, (waiting_of_run? hrun).1 hfree hwaiting⟩

end Flight

end CallGate

import CallGate.Proofs.Flight.Progress

/-!
# A Worker That Waits for Itself

The controller that runs a call may itself cancel it, or the message handler may that it reports
to. A cancel does not ask on whose thread it is: this one displaces the worker, or joins whoever
has displaced it, and is parked like any other until the worker has left. But the worker is the one
that is parked: it cannot leave before its cancel has come back. From then on no party can do
anything (`Flight.Deadlocked`), whoever else cancels and whoever cancelled before, and the call
never has an outcome.

## Main results

* `Flight.deadlocked_selfCancellingActions`: a controller that cancels its own call deadlocks it.
* `Flight.deadlock_of_run?`: every run in which the worker has begun a cancel of its own leads to
  a deadlock, and to no answer for any cancel.
-/

namespace CallGate.Flight

variable {ω α : Type}

/-- A flight is **deadlocked** if its call has no outcome, a cancel is parked on the call and no
party can advance. -/
structure Deadlocked [BEq ω] (convert : Response → α) (f : Flight ω α) : Prop where
  waiting : f.call.outcome? = none
  parked : ∃ c ∈ f.cancels, ∃ notified, c.phase = .parked notified
  stuck : ¬ f.CanAdvance convert

/-- The worker **waits for itself**: it runs the controller, every cancel is parked until it
leaves, and one of them is its own. -/
structure SelfWaiting (f : Flight ω α) : Prop where
  displaced : ∃ flag raised, f.call.owner = .canceller flag raised
  waiting : f.call.outcome? = none
  free : f.lock = none
  running : f.task.isRunning = true
  parked : ∀ c ∈ f.cancels, c.phase = .parked false
  own : ∃ c ∈ f.cancels, c.byWorker = true

variable {f g : Flight ω α} {a : Action ω} {effects new : List (Effect ω)} {course : Course α}

/-! ### Waiting for oneself -/

namespace SelfWaiting

/-- The worker is in a cancel of its own. -/
theorem workerCancelling (h : f.SelfWaiting) : f.workerCancelling = true := by
  obtain ⟨c, hc, hown⟩ := h.own
  have hphase := h.parked c hc
  refine List.any_eq_true.mpr ⟨c, hc, ?_⟩
  simp [hown, Cancel.answer?, hphase]

/-- No cancel has an answer. -/
theorem answer?_eq_none (h : f.SelfWaiting) (position : Nat) : f.answer? position = none := by
  cases hposition : f.cancels[position]? with
  | none => rw [answer?, hposition, Option.bind_none]
  | some c =>
      have hphase := h.parked c (List.mem_of_getElem? hposition)
      simp [answer?, hposition, Cancel.answer?, hphase]

variable [BEq ω] {convert : Response → α}

/-- A step is nobody's advance while the worker waits for itself: it has to finish first, and
everybody else waits for that. -/
theorem advances_eq_false (h : f.SelfWaiting) (hstep : Step convert f a g new) :
    a.advances = false := by
  have hcancelling := h.workerCancelling
  obtain ⟨-, -, hfree, hrunning, hparked, -⟩ := h
  obtain ⟨flag, htask⟩ : ∃ flag, f.task = .running flag := by
    cases htask : f.task <;> simp_all [TaskPhase.isRunning]
  cases hstep with
  | preempted | displacing | joined | polled | looked => rfl
  | claimed _ hqueued | refused _ hqueued => simp [htask] at hqueued
  | invoked hclaimed => simp [htask] at hclaimed
  | finished _ _ hidle | discarded _ _ hidle => simp [hcancelling] at hidle
  | rejected _ hleaving | departed _ hleaving => simp [htask] at hleaving
  | stayed _ hcancel | resumed _ hcancel | answered hcancel =>
      have hphase := hparked _ (List.mem_of_getElem? hcancel)
      cases hphase
  | settled hlock | ignored hlock | woke hlock | vacated hlock | letGo hlock | released hlock =>
      simp [hfree] at hlock

/-- A flight whose worker waits for itself is deadlocked. -/
theorem deadlocked (h : f.SelfWaiting) : f.Deadlocked convert := by
  obtain ⟨c, hc, -⟩ := h.own
  refine ⟨h.waiting, ⟨c, hc, false, h.parked c hc⟩, ?_⟩
  rintro ⟨a, hadvances, hstep⟩
  obtain ⟨⟨g, new⟩, hg⟩ := Option.isSome_iff_exists.mp hstep
  have hquiet := h.advances_eq_false (step_of_step? hg)
  simp [hadvances] at hquiet

/-- Whatever happens, the worker goes on waiting for itself. -/
theorem step (h : f.SelfWaiting) (hstep : Step convert f a g new) : g.SelfWaiting := by
  have hquiet := h.advances_eq_false hstep
  obtain ⟨⟨flag, raised, howner⟩, hwaiting, hfree, hrunning, hparked, c, hc, hown⟩ := h
  cases hstep with
  | joined =>
      refine ⟨⟨_, _, rfl⟩, hwaiting, rfl, hrunning, ?_, c, List.mem_append_left _ hc, hown⟩
      exact List.forall_mem_append.mpr ⟨hparked, List.forall_mem_singleton.mpr rfl⟩
  | polled =>
      exact ⟨⟨flag, raised, by simp [howner]⟩, by simp [hwaiting], hfree, hrunning, hparked,
        c, hc, hown⟩
  | looked => exact ⟨⟨flag, raised, howner⟩, hwaiting, hfree, hrunning, hparked, c, hc, hown⟩
  | preempted _ _ hvacant => simp [howner] at hvacant
  | displacing _ _ howned => simp [howner] at howned
  | _ => simp [Action.advances] at hquiet

end SelfWaiting

/-! ### Beginning to wait -/

/-- While the controller runs, the call has no outcome and an owner, and every cancel is parked
until the worker leaves. -/
theorem Stands.of_running (h : Stands course effects f) (hrunning : f.task.isRunning = true) :
    f.call.outcome? = none ∧ ¬ (f.call.owner = .unclaimed ∨ f.call.owner = .vacated) ∧
      ∀ c ∈ f.cancels, c.phase = .parked false := by
  cases course with
  | untouched => simp [h.queued, TaskPhase.isRunning] at hrunning
  | claimed flag => exact ⟨h.waiting, by simp [h.owner], by simp [h.alone]⟩
  | displaced flag asked => exact ⟨h.waiting, by simp [h.owner], h.parked⟩
  | ended outcome worker =>
      have hidle := h.idle
      cases htask : f.task <;> simp_all [TaskPhase.isRunning, TaskPhase.flag?]

variable [BEq ω] {convert : Response → α}

/-- A worker that **begins a cancel of its own** waits for itself. -/
theorem selfWaiting_of_step {interrupt : Bool} (hstands : Stands course effects f)
    (hstep : Step convert f (.cancel true interrupt) g new) : g.SelfWaiting := by
  have hparked {cancels : List Cancel} (h : ∀ c ∈ cancels, c.phase = .parked false) :
      ∀ c ∈ cancels ++ [⟨true, interrupt, .parked false⟩], c.phase = .parked false :=
    List.forall_mem_append.mpr ⟨h, List.forall_mem_singleton.mpr rfl⟩
  cases hstep with
  | preempted _ hmay hvacant =>
      -- A worker that runs the controller owns the call or was displaced by a canceller.
      obtain ⟨-, howned, -⟩ := hstands.of_running (hmay rfl).1
      exact absurd hvacant howned
  | displacing _ hmay | joined _ hmay =>
      obtain ⟨hrunning, -⟩ := hmay rfl
      obtain ⟨hwaiting, -, hothers⟩ := hstands.of_running hrunning
      exact ⟨⟨_, _, rfl⟩, hwaiting, rfl, hrunning, hparked hothers,
        _, List.mem_append_right _ (List.mem_singleton_self _), rfl⟩

/-- Once it has begun a cancel of its own, the worker waits for itself **ever after**. -/
theorem selfWaiting_of_run? {actions : List (Action ω)} {interrupt : Bool}
    (hrun : ({} : Flight ω α).run? convert actions = some (f, effects))
    (hown : .cancel true interrupt ∈ actions) : f.SelfWaiting := by
  have hempty : ({} : Flight ω α).run? convert [] = some ({}, []) := rfl
  have hkept := run?_induction
    (P := fun done told f => Stands (Course.ofActions convert done) told f ∧
      (.cancel true interrupt ∈ done → f.SelfWaiting))
    (fun hbefore hstep => by
      obtain ⟨hstands, hself⟩ := hbefore
      refine ⟨by rw [Course.ofActions_concat]; exact hstands.step hstep, fun hmem => ?_⟩
      obtain hdone | hlast := List.mem_append.mp hmem
      · exact (hself hdone).step hstep
      · obtain rfl := List.mem_singleton.mp hlast
        exact selfWaiting_of_step hstands hstep)
    [] [] ⟨stands_of_run? hempty, fun hmem => absurd hmem List.not_mem_nil⟩ hrun
  exact hkept.2 hown

/-- **A call that its own worker cancels is deadlocked**: after every run in which the worker has
begun a cancel, to interrupt itself or not, whoever else has cancelled before that or since, the
call has no outcome, no party can advance, and no cancel has an answer. That a running controller
can come to an end, which `CanAdvance` assumes, only makes a deadlock harder to have: nothing here
rests on it. -/
theorem deadlock_of_run? {actions : List (Action ω)} {interrupt : Bool}
    (hrun : ({} : Flight ω α).run? convert actions = some (f, effects))
    (hown : .cancel true interrupt ∈ actions) :
    f.Deadlocked convert ∧ ∀ position, f.answer? position = none := by
  have hself : f.SelfWaiting := selfWaiting_of_run? hrun hown
  exact ⟨hself.deadlocked, hself.answer?_eq_none⟩

/-- The controller cancels the call that it runs. -/
def selfCancellingActions : List (Action Nat) := [.claim ⟨7⟩, .invoke, .cancel true true]

/-- The controller that cancels its own call **deadlocks** it. -/
theorem deadlocked_selfCancellingActions :
    ∃ f effects,
      ({} : Flight Nat Json).run? Response.node selfCancellingActions = some (f, effects) ∧
        f.Deadlocked Response.node := by
  obtain ⟨f, effects, hrun, hself⟩ : ∃ f effects,
      ({} : Flight Nat Json).run? Response.node selfCancellingActions = some (f, effects) ∧
        f.SelfWaiting :=
    ⟨_, _, rfl, ⟨_, _, rfl⟩, rfl, rfl, rfl, by decide, ⟨_, List.mem_singleton_self _, rfl⟩⟩
  exact ⟨f, effects, hrun, hself.deadlocked⟩

/-- Somebody has displaced the worker before its controller quietly cancels the call too; then
somebody else insists, and looks in vain. -/
def joiningActions : List (Action Nat) :=
  [.claim ⟨7⟩, .cancel false true, .invoke, .poll 1, .cancel true false, .cancel false true, .look]

/-- Neither the first canceller nor the insistent one ever has an answer. -/
theorem deadlocked_joiningActions :
    ∃ f effects,
      ({} : Flight Nat Json).run? Response.node joiningActions = some (f, effects) ∧
        .cancel true false ∈ joiningActions ∧ f.Deadlocked Response.node ∧
        f.cancels.length = 3 ∧ f.answer? 0 = none ∧ f.answer? 2 = none := by
  obtain ⟨f, effects, hrun, hlength⟩ : ∃ f effects,
      ({} : Flight Nat Json).run? Response.node joiningActions = some (f, effects) ∧
        f.cancels.length = 3 :=
    ⟨_, _, rfl, rfl⟩
  have hown : .cancel true false ∈ joiningActions := by simp [joiningActions]
  obtain ⟨hdeadlocked, hanswers⟩ := deadlock_of_run? hrun hown
  exact ⟨f, effects, hrun, hown, hdeadlocked, hlength, hanswers 0, hanswers 2⟩

end CallGate.Flight

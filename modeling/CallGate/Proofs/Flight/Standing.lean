import CallGate.Proofs.Flight.Order
import CallGate.Proofs.Flight.Step

/-!
# Where a Flight Stands

The course of a call (`Course`) is read off the actions alone. This module says what it means
for the flight itself: `Stands` gives for each course the owner, the slot, the locks, the task
and the cancels, and every step keeps it. What is known of a call at any moment of any
interleaving is then read off its course.

The obligation to settle the slot moves between the parties, and `Owed` says who has it: the
holder of the owner lock, or, after a displaced worker has left, the cancels it notified.

## Main results

* `Stands.step`: one step moves a flight along its course.
* `stands_of_run?`: every run of a new call stands where its actions say.
-/

namespace CallGate

variable {ω α : Type}

/-- No worker is between its claim and its finish while the task is queued or leaves. -/
theorem TaskPhase.flag?_of_idle {t : TaskPhase} (h : t = .queued ∨ t = .leaving) :
    t.flag? = none := by
  obtain rfl | rfl := h <;> rfl

/-- The outcome that a waiting slot is **owed**, and by whom. -/
inductive Owed (outcome : CallOutcome α) (lock : Option (Tenure ω α)) (cancels : List Cancel) :
    Prop
  /-- The holder of the owner lock is about to write it. -/
  | held (party : Party) : lock = some ⟨party, .settle outcome⟩ → Owed outcome lock cancels
  /-- The lock is free and a notified cancel has yet to take it. -/
  | notified (c : Cancel) : lock = none → outcome = .cancelled → c ∈ cancels →
      c.phase = .parked true → Owed outcome lock cancels

/-- A cancel is **in step** with a call that ends in an outcome: it is not parked for nothing,
and it reads the status and answers only once the outcome is written. -/
def Cancel.InStep (outcome : CallOutcome α) (call : Call ω α) (c : Cancel) : Prop :=
  match c.phase with
  | .parked notified => notified = true
  | .settling => True
  | .reading => call.outcome? = some outcome
  | .answered cancelled => call.outcome? = some outcome ∧ cancelled = outcome.isCancelled

/-! ### What a run has told -/

/-- The flag of an effect that invokes the controller. -/
def Effect.invoked? : Effect ω → Option Interrupt
  | invoke flag => some flag
  | _ => none

/-- The flag of an effect that raises one. -/
def Effect.raised? : Effect ω → Option Interrupt
  | raise flag => some flag
  | _ => none

/-- The flags under which the controller was **invoked**, in order. -/
def invocations (effects : List (Effect ω)) : List Interrupt := effects.filterMap Effect.invoked?

/-- The flags that were **raised**, in order. -/
def raises (effects : List (Effect ω)) : List Interrupt := effects.filterMap Effect.raised?

/-- Effects **tell** of invocations under some flags and of raising others. -/
def Told (effects : List (Effect ω)) (invoked raised : List Interrupt) : Prop :=
  invocations effects = invoked ∧ raises effects = raised

namespace Told

variable {effects new : List (Effect ω)} {invoked raised moreInvoked moreRaised : List Interrupt}

/-- Effects one after the other tell of what each of them tells. -/
theorem append (h : Told effects invoked raised) (hnew : Told new moreInvoked moreRaised) :
    Told (effects ++ new) (invoked ++ moreInvoked) (raised ++ moreRaised) := by
  obtain ⟨hinvoked, hraised⟩ := h
  obtain ⟨hmoreInvoked, hmoreRaised⟩ := hnew
  constructor
  · rw [invocations, List.filterMap_append, ← invocations, ← invocations, hinvoked, hmoreInvoked]
  · rw [raises, List.filterMap_append, ← raises, ← raises, hraised, hmoreRaised]

/-- Effects that tell nothing change nothing. -/
theorem quiet (h : Told effects invoked raised) (hnew : Told new [] []) :
    Told (effects ++ new) invoked raised := by
  simpa using h.append hnew

/-- Effects that tell of invocations only, after none were told of. -/
theorem invoke (h : Told effects [] raised) (hnew : Told new moreInvoked []) :
    Told (effects ++ new) moreInvoked raised := by
  simpa using h.append hnew

/-- Effects that tell of raised flags only, after none were told of. -/
theorem raise (h : Told effects invoked []) (hnew : Told new [] moreRaised) :
    Told (effects ++ new) invoked moreRaised := by
  simpa using h.append hnew

end Told

/-- The flag under which the controller is running. -/
def TaskPhase.invoked : TaskPhase → List Interrupt
  | running flag => [flag]
  | _ => []

/-- The controller is invoked with the flag of the worker. -/
theorem TaskPhase.invoked_prefix {t : TaskPhase} {flag : Interrupt} (h : t.flag? = some flag) :
    t.invoked <+: [flag] := by
  cases t with
  | claimed _ => exact List.nil_prefix
  | running running =>
      obtain rfl := Option.some.inj h
      exact List.prefix_rfl
  | queued | leaving | gone => cases h

/-! ### The flight on its course -/

namespace Flight

/-- The flight of an **untouched** call. -/
structure Untouched (effects : List (Effect ω)) (f : Flight ω α) : Prop where
  owner : f.call.owner = .unclaimed
  waiting : f.call.outcome? = none
  interrupts : f.call.interrupts = 0
  free : f.lock = none
  queued : f.task = .queued
  alone : f.cancels = []
  told : Told effects [] []

/-- The flight of a **claimed** call. -/
structure Claimed (flag : Interrupt) (effects : List (Effect ω)) (f : Flight ω α) : Prop where
  owner : f.call.owner = .worker flag
  waiting : f.call.outcome? = none
  interrupts : f.call.interrupts = 0
  free : f.lock = none
  working : f.task.flag? = some flag
  alone : f.cancels = []
  told : Told effects f.task.invoked []

/-- The flight of a **displaced** call. -/
structure Displaced (flag : Interrupt) (asked : Bool) (effects : List (Effect ω))
    (f : Flight ω α) : Prop where
  owner : f.call.owner = .canceller flag asked
  waiting : f.call.outcome? = none
  interrupts : f.call.interrupts = asked.toNat
  free : f.lock = none
  working : f.task.flag? = some flag
  cancelled : f.cancels ≠ []
  parked : ∀ c ∈ f.cancels, c.phase = .parked false
  told : Told effects f.task.invoked (if asked then [flag] else [])

/-- The flight of a call whose outcome is **fixed** and whose worker, if it had one, has handed
in its result. The worker keeps the owner until it has published. -/
structure Fixed (outcome : CallOutcome α) (flags raised : List Interrupt)
    (effects : List (Effect ω)) (f : Flight ω α) : Prop where
  owner : f.call.owner = .vacated ∨
    (∃ flag, f.call.owner = .worker flag) ∧ ∃ duty, f.lock = some ⟨.worker, duty⟩
  slot : f.call.outcome? = some outcome ∨
    f.call.outcome? = none ∧ Owed outcome f.lock f.cancels
  interrupts : f.call.interrupts = raised.length
  idle : f.task.flag? = none
  cancels : ∀ c ∈ f.cancels, c.InStep outcome f.call
  told : Told effects flags raised

/-- Where a flight **stands** on a course, after the effects so far. -/
def Stands (course : Course α) : List (Effect ω) → Flight ω α → Prop :=
  match course with
  | .untouched => Untouched
  | .claimed flag => Claimed flag
  | .displaced flag asked => Displaced flag asked
  | .ended outcome _ => Fixed outcome course.flags course.raised

end Flight

/-! ### Before the outcome is fixed -/

/-- A parked cancel that is notified is parked no longer for nothing. -/
theorem Cancel.notified_phase {c : Cancel} {before : Bool} (h : c.phase = .parked before) :
    c.notified.phase = .parked true := by
  simp [notified, h]

namespace Flight

variable [BEq ω] {convert : Response → α} {f g : Flight ω α} {a : Action ω}
  {effects new : List (Effect ω)}

/-- A step of an untouched call. -/
theorem Untouched.step (h : Untouched effects f) (hstep : Step convert f a g new) :
    Stands (Course.next convert .untouched a) (effects ++ new) g := by
  obtain ⟨howner, hwaiting, hinterrupts, hfree, hqueued, halone, htold⟩ := h
  cases hstep with
  | claimed =>
      exact ⟨rfl, hwaiting, hinterrupts, hfree, rfl, halone, htold.quiet ⟨rfl, rfl⟩⟩
  | rejected =>
      exact ⟨.inl rfl, .inr ⟨hwaiting, .held _ rfl⟩, hinterrupts, rfl, by simp [halone],
        htold.quiet ⟨rfl, rfl⟩⟩
  | preempted =>
      exact ⟨.inl rfl, .inr ⟨hwaiting, .held _ rfl⟩, hinterrupts,
        by simp [hqueued, TaskPhase.flag?], by simp [halone, Cancel.InStep],
        htold.quiet ⟨rfl, rfl⟩⟩
  | polled =>
      exact ⟨by simp [howner], by simp [hwaiting], by simp [hinterrupts], hfree, hqueued,
        halone, htold.quiet ⟨rfl, rfl⟩⟩
  | looked =>
      exact ⟨howner, hwaiting, hinterrupts, hfree, hqueued, halone, htold.quiet ⟨rfl, rfl⟩⟩
  | _ => simp_all

/-- A step of a claimed call. -/
theorem Claimed.step {flag : Interrupt} (h : Claimed flag effects f)
    (hstep : Step convert f a g new) :
    Stands (Course.next convert (.claimed flag) a) (effects ++ new) g := by
  obtain ⟨howner, hwaiting, hinterrupts, hfree, hworking, halone, htold⟩ := h
  cases hstep with
  | invoked htask =>
      rw [htask] at hworking htold
      exact ⟨howner, hwaiting, hinterrupts, hfree, hworking, halone, htold.invoke ⟨rfl, rfl⟩⟩
  | finished _ htask =>
      rw [htask] at hworking htold
      obtain rfl := Option.some.inj hworking
      exact ⟨.inr ⟨⟨_, howner⟩, _, rfl⟩, .inr ⟨hwaiting, .held _ rfl⟩, hinterrupts, rfl,
        by simp [halone], htold.quiet ⟨rfl, rfl⟩⟩
  | @displacing _ interrupt _ _ _ howned =>
      obtain rfl := Owner.worker.inj (howner.symm.trans howned)
      refine ⟨rfl, hwaiting, by simp [hinterrupts], rfl, hworking, by simp, by simp [halone], ?_⟩
      cases interrupt with
      | false => exact htold.quiet ⟨rfl, rfl⟩
      | true => exact htold.raise ⟨rfl, rfl⟩
  | polled =>
      exact ⟨by simp [howner], by simp [hwaiting], by simp [hinterrupts], hfree, hworking,
        halone, htold.quiet ⟨rfl, rfl⟩⟩
  | looked =>
      exact ⟨howner, hwaiting, hinterrupts, hfree, hworking, halone, htold.quiet ⟨rfl, rfl⟩⟩
  | departed _ htask => simp [TaskPhase.flag?_of_idle htask] at hworking
  | _ => simp_all [TaskPhase.flag?]

/-- A step of a displaced call. -/
theorem Displaced.step {flag : Interrupt} {asked : Bool} (h : Displaced flag asked effects f)
    (hstep : Step convert f a g new) :
    Stands (Course.next convert (.displaced flag asked) a) (effects ++ new) g := by
  obtain ⟨howner, hwaiting, hinterrupts, hfree, hworking, hcancelled, hparked, htold⟩ := h
  cases hstep with
  | invoked htask =>
      rw [htask] at hworking htold
      exact ⟨howner, hwaiting, hinterrupts, hfree, hworking, hcancelled, hparked,
        htold.invoke ⟨rfl, rfl⟩⟩
  | discarded _ htask =>
      rw [htask] at hworking htold
      obtain rfl := Option.some.inj hworking
      obtain ⟨c, hc⟩ := List.exists_mem_of_ne_nil _ hcancelled
      refine ⟨.inl rfl, .inr ⟨hwaiting, .notified c.notified rfl rfl ?_ ?_⟩, ?_, rfl, ?_, ?_⟩
      · exact List.mem_map_of_mem hc
      · exact Cancel.notified_phase (hparked c hc)
      · cases asked <;> exact hinterrupts
      · intro d hd
        obtain ⟨c, hc, rfl⟩ := List.mem_map.mp hd
        rw [Cancel.InStep, Cancel.notified_phase (hparked c hc)]
      · cases asked <;> exact htold.quiet ⟨rfl, rfl⟩
  | @joined _ interrupt _ _ _ _ howned =>
      obtain ⟨rfl, rfl⟩ := Owner.canceller.inj (howner.symm.trans howned)
      refine ⟨rfl, hwaiting, ?_, rfl, hworking, by simp, ?_, ?_⟩
      · rw [hinterrupts]
        cases asked <;> simp
      · intro c hc
        obtain hc | hc := List.mem_append.mp hc
        · exact hparked c hc
        · rw [List.mem_singleton.mp hc]
      · cases asked with
        | false => cases interrupt <;> exact htold.raise ⟨rfl, rfl⟩
        | true => cases interrupt <;> exact htold.quiet ⟨rfl, rfl⟩
  | stayed _ hcancel | resumed _ hcancel | answered hcancel =>
      have hphase := hparked _ (List.mem_of_getElem? hcancel)
      cases hphase
  | polled =>
      exact ⟨by simp [howner], by simp [hwaiting], by simp [hinterrupts], hfree, hworking,
        hcancelled, hparked, htold.quiet ⟨rfl, rfl⟩⟩
  | looked =>
      exact ⟨howner, hwaiting, hinterrupts, hfree, hworking, hcancelled, hparked,
        htold.quiet ⟨rfl, rfl⟩⟩
  | departed _ htask => simp [TaskPhase.flag?_of_idle htask] at hworking
  | _ => simp_all [TaskPhase.flag?]

end Flight

/-! ### After the outcome is fixed -/

namespace Cancel.InStep

variable {outcome : CallOutcome α} {call : Call ω α} {c : Cancel}

/-- Cancels stay in step when they are notified. -/
theorem notified (h : c.InStep outcome call) : c.notified.InStep outcome call := by
  obtain ⟨byWorker, interrupt, phase⟩ := c
  cases phase with
  | parked before => rfl
  | _ => exact h

/-- Cancels stay in step with a call whose slot is untouched or gets its outcome. -/
theorem of_call {next : Call ω α} (h : c.InStep outcome call)
    (hnext : call.outcome? = some outcome → next.outcome? = some outcome) :
    c.InStep outcome next := by
  unfold InStep at h ⊢
  split at h
  · exact h
  · trivial
  · exact hnext h
  · exact ⟨hnext h.1, h.2⟩

end Cancel.InStep

/-- What holds of every element of a list and of a new one still holds when the new one takes
a place in the list. -/
theorem forall_mem_set {β : Type} {p : β → Prop} {l : List β} {n : Nat} {b : β}
    (h : ∀ a ∈ l, p a) (hb : p b) : ∀ a ∈ l.set n b, p a := by
  intro a ha
  obtain ha | rfl := List.mem_or_eq_of_mem_set ha
  · exact h a ha
  · exact hb

/-- What holds of every element of a list still holds when one is changed into something of
which it holds. -/
theorem forall_mem_modify {β : Type} {p : β → Prop} {l : List β} {n : Nat} {change : β → β}
    (h : ∀ a ∈ l, p a) (hchange : ∀ a ∈ l, p (change a)) : ∀ a ∈ l.modify n change, p a := by
  intro a ha
  obtain ⟨k, hk, rfl⟩ := List.mem_iff_getElem.mp ha
  rw [List.length_modify] at hk
  rw [List.getElem_modify]
  split
  · exact hchange _ (List.getElem_mem hk)
  · exact h _ (List.getElem_mem hk)

namespace Flight

variable {outcome : CallOutcome α} {flags raised : List Interrupt}
  {effects new : List (Effect ω)} {f g : Flight ω α}

/-- The call is vacated wherever the owner lock is free. -/
theorem Fixed.vacated (h : Fixed outcome flags raised effects f) (hfree : f.lock = none) :
    f.call.owner = .vacated := by
  obtain howner | ⟨-, duty, hlock⟩ := h.owner
  · exact howner
  · simp [hfree] at hlock

/-- The outcome that the holder of the owner lock is about to write is the one that is
fixed, unless the slot is written already. -/
theorem Fixed.duty {party : Party} {written : CallOutcome α}
    (h : Fixed outcome flags raised effects f)
    (hlock : f.lock = some ⟨party, .settle written⟩) (hwaiting : f.call.outcome? = none) :
    written = outcome := by
  obtain hdone | ⟨-, howed⟩ := h.slot
  · simp [hwaiting] at hdone
  cases howed with
  | held party hheld =>
      rw [hlock, Option.some.injEq, Tenure.mk.injEq, Duty.settle.injEq] at hheld
      exact hheld.2
  | notified c hfree => simp [hlock] at hfree

/-- While the same party holds the owner lock, the owner is not yet to be vacated, or is
already. -/
theorem Fixed.owner_of_held {party : Party} {duty later : Duty ω α}
    (h : Fixed outcome flags raised effects f) (hlock : f.lock = some ⟨party, duty⟩) :
    f.call.owner = .vacated ∨ (∃ flag, f.call.owner = .worker flag) ∧
      ∃ duty, some (⟨party, later⟩ : Tenure ω α) = some ⟨.worker, duty⟩ := by
  obtain howner | ⟨hworker, held, hheld⟩ := h.owner
  · exact .inl howner
  · rw [hlock, Option.some.injEq, Tenure.mk.injEq] at hheld
    exact .inr ⟨hworker, later, by rw [hheld.1]⟩

/-- Once the holder of the owner lock wakes, the slot is written. -/
theorem Fixed.done_of_wake {party : Party} {wakers : List ω}
    (h : Fixed outcome flags raised effects f) (hlock : f.lock = some ⟨party, .wake wakers⟩) :
    f.call.outcome? = some outcome := by
  obtain hdone | ⟨-, howed⟩ := h.slot
  · exact hdone
  cases howed with
  | held party hheld => simp [hlock] at hheld
  | notified c hfree => simp [hlock] at hfree

/-- Where the owner lock is free, a waiting slot is to be settled as cancelled. -/
theorem Fixed.slot_of_free (h : Fixed outcome flags raised effects f) (hfree : f.lock = none) :
    f.call.outcome? = some outcome ∨ f.call.outcome? = none ∧ outcome = .cancelled := by
  obtain hdone | ⟨hwaiting, howed⟩ := h.slot
  · exact .inl hdone
  cases howed with
  | held party hheld => simp [hfree] at hheld
  | notified c _ houtcome => exact .inr ⟨hwaiting, houtcome⟩

/-- A cancel that takes the free owner lock is about to write the outcome that is fixed. -/
theorem Fixed.slot_of_taken {position : Nat} {cancels : List Cancel}
    (h : Fixed outcome flags raised effects f) (hfree : f.lock = none) :
    f.call.outcome? = some outcome ∨ f.call.outcome? = none ∧
      Owed outcome (some ⟨.canceller position, .settle .cancelled⟩ : Option (Tenure ω α))
        cancels := by
  obtain hdone | ⟨hwaiting, rfl⟩ := h.slot_of_free hfree
  · exact .inl hdone
  · exact .inr ⟨hwaiting, .held _ rfl⟩

variable [BEq ω] {convert : Response → α}

/-- A step of a call whose outcome is fixed. -/
theorem Fixed.step {a : Action ω} (h : Fixed outcome flags raised effects f)
    (hstep : Step convert f a g new) : Fixed outcome flags raised (effects ++ new) g := by
  have htold := h.told
  cases hstep with
  | claimed hfree _ howner | rejected hfree _ howner =>
      simp [h.vacated hfree] at howner
  | displacing hfree _ howner | joined hfree _ howner | stayed hfree _ howner =>
      simp [h.vacated hfree] at howner
  | invoked htask | finished _ htask | discarded _ htask =>
      have hidle := h.idle
      simp [htask, TaskPhase.flag?] at hidle
  | refused =>
      exact ⟨h.owner, h.slot, h.interrupts, rfl, h.cancels, htold.quiet ⟨rfl, rfl⟩⟩
  | departed hfree =>
      exact ⟨.inl (h.vacated hfree), hfree ▸ h.slot, h.interrupts, rfl, h.cancels,
        htold.quiet ⟨rfl, rfl⟩⟩
  | preempted hfree =>
      refine ⟨.inl rfl, h.slot_of_taken hfree, h.interrupts, h.idle, ?_, htold.quiet ⟨rfl, rfl⟩⟩
      exact List.forall_mem_append.mpr
        ⟨h.cancels, List.forall_mem_singleton.mpr trivial⟩
  | resumed hfree =>
      exact ⟨.inl (h.vacated hfree), h.slot_of_taken hfree, h.interrupts, h.idle,
        forall_mem_set h.cancels (by simp [Cancel.InStep]), htold.quiet ⟨rfl, rfl⟩⟩
  | settled hlock hslot =>
      have hwaiting : f.call.outcome? = none := by simp [Call.outcome?, hslot]
      obtain rfl := h.duty hlock hwaiting
      refine ⟨h.owner_of_held hlock, .inl rfl, h.interrupts, h.idle, fun c hc => ?_,
        htold.quiet ⟨rfl, rfl⟩⟩
      exact (h.cancels c hc).of_call fun _ => rfl
  | ignored hlock hslot =>
      have hdone : f.call.outcome? = some outcome := by
        refine h.slot.resolve_right ?_
        simp [Call.outcome?, hslot]
      exact ⟨h.owner_of_held hlock, .inl hdone, h.interrupts, h.idle, h.cancels,
        htold.quiet ⟨rfl, rfl⟩⟩
  | woke hlock =>
      exact ⟨h.owner_of_held hlock, .inl (h.done_of_wake hlock), h.interrupts, h.idle, h.cancels,
        htold.quiet ⟨rfl, rfl⟩⟩
  | vacated hlock =>
      refine ⟨.inl rfl, .inl (h.done_of_wake hlock), h.interrupts, h.idle, ?_,
        htold.quiet ⟨rfl, rfl⟩⟩
      intro d hd
      obtain ⟨c, hc, rfl⟩ := List.mem_map.mp hd
      exact (h.cancels c hc).notified
  | letGo hlock =>
      refine ⟨.inl ?_, .inl (h.done_of_wake hlock), h.interrupts, h.idle, h.cancels,
        htold.quiet ⟨rfl, rfl⟩⟩
      exact h.owner.resolve_right (by simp [hlock])
  | released hlock =>
      have hdone := h.done_of_wake hlock
      refine ⟨.inl ?_, .inl hdone, h.interrupts, h.idle, ?_, htold.quiet ⟨rfl, rfl⟩⟩
      · exact h.owner.resolve_right (by simp [hlock])
      · exact forall_mem_modify h.cancels fun c _ => by simpa [Cancel.InStep] using hdone
  | answered hcancel =>
      have hdone : f.call.outcome? = some outcome := by
        simpa [Cancel.InStep] using h.cancels _ (List.mem_of_getElem? hcancel)
      refine ⟨h.owner, .inl hdone, h.interrupts, h.idle, forall_mem_set h.cancels ?_,
        htold.quiet ⟨rfl, rfl⟩⟩
      exact ⟨hdone, by rw [Call.status_of_outcome? hdone, outcome.status_beq_cancelled]⟩
  | polled =>
      refine ⟨by simpa using h.owner, by simpa using h.slot, by simpa using h.interrupts, h.idle,
        fun c hc => (h.cancels c hc).of_call ?_, htold.quiet ⟨rfl, rfl⟩⟩
      simp
  | looked =>
      exact ⟨h.owner, h.slot, h.interrupts, h.idle, h.cancels, htold.quiet ⟨rfl, rfl⟩⟩

/-! ### Every run -/

/-- **One step** moves a flight along its course. -/
theorem Stands.step {course : Course α} {a : Action ω} (h : Stands course effects f)
    (hstep : Step convert f a g new) : Stands (course.next convert a) (effects ++ new) g := by
  cases course with
  | untouched => exact Untouched.step h hstep
  | claimed flag => exact Claimed.step h hstep
  | displaced flag asked => exact Displaced.step h hstep
  | ended outcome worker =>
      have hnext : (Course.ended outcome worker).next convert a = .ended outcome worker := by
        cases a <;> rfl
      rw [hnext]
      exact Fixed.step h hstep

/-- **Every run** of a new call stands where its actions say. -/
theorem stands_of_run? {actions : List (Action ω)}
    (hrun : ({} : Flight ω α).run? convert actions = some (f, effects)) :
    Stands (Course.ofActions convert actions) effects f := by
  have hnew : Stands (Course.ofActions convert ([] : List (Action ω))) [] ({} : Flight ω α) :=
    Untouched.mk rfl rfl rfl rfl rfl rfl ⟨rfl, rfl⟩
  exact run?_induction (P := fun done told f => Stands (Course.ofActions convert done) told f)
    (fun h hstep => by rw [Course.ofActions_concat]; exact h.step hstep) [] [] hnew hrun

/-- Once the outcome is fixed, a run neither invokes the controller nor raises a flag. -/
theorem Fixed.quiet_of_run? {actions : List (Action ω)} (h : Fixed outcome flags raised effects f)
    (hrun : f.run? convert actions = some (g, new)) :
    Fixed outcome flags raised (effects ++ new) g ∧ Told new [] [] := by
  have hg : Fixed outcome flags raised (effects ++ new) g :=
    run?_induction (P := fun _ told f => Fixed outcome flags raised told f)
      (fun h hstep => h.step hstep) [] effects h hrun
  refine ⟨hg, ?_, ?_⟩
  · have hinvoked := hg.told.1
    rw [invocations, List.filterMap_append, ← invocations, h.told.1] at hinvoked
    exact List.append_right_eq_self.mp hinvoked
  · have hraised := hg.told.2
    rw [raises, List.filterMap_append, ← raises, h.told.2] at hraised
    exact List.append_right_eq_self.mp hraised

end Flight

/-! ### What a flight shows of its course -/

namespace Flight

/-- Somebody is **expected** to settle the call of a flight whose owner lock is free. -/
inductive Expected (f : Flight ω α) : Prop
  /-- The task has neither tried its claim nor been dropped. -/
  | task : f.call.owner = .unclaimed → f.task = .queued → Expected f
  /-- A worker is between its claim and its finish. -/
  | worker (flag : Interrupt) : f.task.flag? = some flag → Expected f
  /-- The worker has left, and a cancel that was parked has yet to take the owner lock. -/
  | canceller (c : Cancel) : f.call.owner = .vacated → c ∈ f.cancels → c.phase = .parked true →
      Expected f

/-- A flight is **at rest** once its task is gone, the owner lock is free and every cancel that
was begun has its answer. -/
structure AtRest (f : Flight ω α) : Prop where
  gone : f.task = .gone
  free : f.lock = none
  answered : ∀ c ∈ f.cancels, c.answer?.isSome = true

/-- Of a flight at rest nothing more is expected. -/
theorem AtRest.not_expected {f : Flight ω α} (h : f.AtRest) : ¬ f.Expected := by
  obtain ⟨hgone, -, hanswered⟩ := h
  intro hexpected
  cases hexpected with
  | task _ hqueued => simp [hgone] at hqueued
  | worker flag hflag => simp [hgone, TaskPhase.flag?] at hflag
  | canceller c _ hc hphase =>
      have hanswer := hanswered c hc
      simp [Cancel.answer?, hphase] at hanswer

namespace Stands

variable {course : Course α} {outcome : CallOutcome α} {flags : List Interrupt}
  {effects : List (Effect ω)} {f : Flight ω α}

/-- An outcome in the slot is the end of the course, and the controller was invoked as it
says. -/
theorem ending?_of_outcome? (h : Stands course effects f)
    (hdone : f.call.outcome? = some outcome) :
    course.ending? = some (outcome, invocations effects) := by
  cases course with
  | untouched => simp [h.waiting] at hdone
  | claimed flag => simp [h.waiting] at hdone
  | displaced flag asked => simp [h.waiting] at hdone
  | ended fixed worker =>
      obtain hslot | ⟨hwaiting, -⟩ := h.slot
      · rw [hdone, Option.some.injEq] at hslot
        rw [hslot, Course.ending?, h.told.1]
      · simp [hdone] at hwaiting

/-- The controller is invoked no more often than the course says. -/
theorem invocations_prefix (h : Stands course effects f) :
    invocations effects <+: course.flags := by
  cases course with
  | untouched => rw [h.told.1]; exact List.nil_prefix
  | claimed flag => rw [h.told.1]; exact TaskPhase.invoked_prefix h.working
  | displaced flag asked => rw [h.told.1]; exact TaskPhase.invoked_prefix h.working
  | ended outcome worker =>
      have hinvoked : invocations effects = _ := h.told.1
      exact hinvoked ▸ List.prefix_rfl

/-- The flags that were raised are those of the course. -/
theorem raises_eq (h : Stands course effects f) : raises effects = course.raised := by
  cases course with
  | untouched => exact h.told.2
  | claimed flag => exact h.told.2
  | displaced flag asked => rw [h.told.2]; cases asked <;> rfl
  | ended outcome worker => exact h.told.2

/-- Every flag that was raised was counted. -/
theorem interrupts_eq (h : Stands course effects f) :
    f.call.interrupts = course.raised.length := by
  cases course with
  | untouched => exact h.interrupts
  | claimed flag => exact h.interrupts
  | displaced flag asked => rw [h.interrupts]; cases asked <;> rfl
  | ended outcome worker => exact h.interrupts

/-- Once the course has an end, no other outcome is in the slot. -/
theorem outcome?_of_ending? (h : Stands course effects f)
    (hend : course.ending? = some (outcome, flags)) :
    f.call.outcome? = none ∨ f.call.outcome? = some outcome := by
  cases course with
  | untouched => simp [Course.ending?] at hend
  | claimed flag => simp [Course.ending?] at hend
  | displaced flag asked => exact .inl h.waiting
  | ended fixed worker =>
      obtain ⟨rfl, -⟩ := Prod.mk.inj (Option.some.inj hend)
      exact h.slot.symm.imp_left And.left

/-- A waiting slot is not forgotten: where the owner lock is free, somebody is expected. -/
theorem expected (h : Stands course effects f) (hfree : f.lock = none)
    (hwaiting : f.call.outcome? = none) : f.Expected := by
  cases course with
  | untouched => exact .task h.owner h.queued
  | claimed flag => exact .worker flag h.working
  | displaced flag asked => exact .worker flag h.working
  | ended outcome worker =>
      have howed := (h.slot.resolve_left (by simp [hwaiting])).2
      cases howed with
      | held party hheld => simp [hfree] at hheld
      | notified c _ _ hc hphase => exact .canceller c (Fixed.vacated h hfree) hc hphase

/-- At rest the outcome is in the slot. -/
theorem outcome?_of_atRest (h : Stands course effects f) (hrest : f.AtRest) :
    ∃ outcome, f.call.outcome? = some outcome := by
  cases hslot : f.call.outcome? with
  | none => exact absurd (h.expected hrest.free hslot) hrest.not_expected
  | some outcome => exact ⟨outcome, rfl⟩

/-- A cancel is parked and not notified only on the displaced course. -/
theorem displaced_of_parked {c : Cancel} (h : Stands course effects f) (hc : c ∈ f.cancels)
    (hphase : c.phase = .parked false) : ∃ flag asked, course = .displaced flag asked := by
  cases course with
  | untouched => simp [h.alone] at hc
  | claimed flag => simp [h.alone] at hc
  | displaced flag asked => exact ⟨flag, asked, rfl⟩
  | ended outcome worker =>
      have hstep := h.cancels c hc
      simp [Cancel.InStep, hphase] at hstep

/-- A cancel that has its answer is one of a course that has ended, and its answer is whether the
outcome in the slot is the cancelled one. -/
theorem ended_of_answer? {position : Nat} {cancelled : Bool} (h : Stands course effects f)
    (hanswer : f.answer? position = some cancelled) :
    ∃ outcome worker, course = .ended outcome worker ∧ f.call.outcome? = some outcome ∧
      cancelled = outcome.isCancelled := by
  obtain ⟨c, hposition, hc⟩ := Option.bind_eq_some_iff.mp hanswer
  have hmem : c ∈ f.cancels := List.mem_of_getElem? hposition
  have hphase : c.phase = .answered cancelled := by
    unfold Cancel.answer? at hc
    split at hc
    next hphase => rw [hphase, Option.some.inj hc]
    next => cases hc
  cases course with
  | untouched => simp [h.alone] at hmem
  | claimed flag => simp [h.alone] at hmem
  | displaced flag asked => simp [h.parked c hmem] at hphase
  | ended outcome worker =>
      have hstep := h.cancels c hmem
      rw [Cancel.InStep, hphase] at hstep
      exact ⟨outcome, worker, rfl, hstep⟩

end Stands

/-- A new flight that is claimed with one flag only invokes the controller once at most, with that
flag. -/
theorem invocations_of_claims [BEq ω] {convert : Response → α} {actions : List (Action ω)}
    {f : Flight ω α} {effects : List (Effect ω)} {flag : Interrupt}
    (hrun : ({} : Flight ω α).run? convert actions = some (f, effects))
    (hclaims : ∀ fresh, .claim fresh ∈ actions → fresh = flag) :
    invocations effects <+: [flag] := by
  have hstands := stands_of_run? hrun
  have hprefix := hstands.invocations_prefix
  cases hworker : (Course.ofActions convert actions).worker? with
  | none =>
      rw [Course.flags, hworker] at hprefix
      exact hprefix.trans List.nil_prefix
  | some worker =>
      have hflags : (Course.ofActions convert actions).flags = [worker.1] := by
        rw [Course.flags, hworker]
        rfl
      have hmem : worker.1 ∈ (Course.ofActions convert actions).flags := by simp [hflags]
      obtain hnone | hclaim := Course.claim_mem_of_mem_flags hmem
      · cases hnone
      · rw [hflags, hclaims _ hclaim] at hprefix
        exact hprefix

end Flight

end CallGate

import CallGate.Call.Flight
import CallGate.Interleaving

/-!
# The Steps of a Flight

`Flight.step?` computes one step; `Flight.Step` says what a step can do, with one constructor
for each way in which a section can go. An invariant is proved by cases on the relation and
holds of what runs.

## Main results

* `Flight.step_of_step?`: what `step?` computes is a step.
* `Flight.run?_induction`: what holds at the start of a run and is kept by every step holds at
  its end, together with the actions and the effects so far.
* `Flight.outcome?_of_run?`: an outcome in the slot stays there.
-/

namespace CallGate.Flight

variable {ω α : Type} [BEq ω] {convert : Response → α}

/-- The **steps** of a flight: the flight before, the action, the flight after it and the
effects. -/
inductive Step (convert : Response → α) :
    Flight ω α → Action ω → Flight ω α → List (Effect ω) → Prop
  /-- A worker claims the call. -/
  | claimed {f : Flight ω α} {fresh : Interrupt} :
      f.lock = none → f.task = .queued → f.call.owner = .unclaimed →
      Step convert f (.claim fresh)
        { f with call := { f.call with owner := .worker fresh }, task := .claimed fresh }
        [.acquire .owner, .release .owner]
  /-- A worker comes too late to claim the call. -/
  | refused {f : Flight ω α} {fresh : Interrupt} :
      f.lock = none → f.task = .queued → f.call.owner ≠ .unclaimed →
      Step convert f (.claim fresh) { f with task := .leaving }
        [.acquire .owner, .release .owner, .log Call.cancelledBeforeDispatchEvent]
  /-- The worker invokes the controller. -/
  | invoked {f : Flight ω α} {flag : Interrupt} :
      f.task = .claimed flag →
      Step convert f .invoke { f with task := .running flag } [.invoke flag]
  /-- The worker still owns the call and takes the lock to publish its outcome. -/
  | finished {f : Flight ω α} {flag owned : Interrupt} {ending : Ending} :
      f.lock = none → f.task = .running flag → f.workerCancelling = false →
      f.call.owner = .worker owned →
      Step convert f (.finish ending)
        { f with
          lock := some ⟨.worker, .settle (Call.outcomeOf convert ending.result)⟩
          task := .leaving }
        [.acquire .owner]
  /-- The worker was displaced: it leaves and notifies. -/
  | discarded {f : Flight ω α} {flag : Interrupt} {ending : Ending} :
      f.lock = none → f.task = .running flag → f.workerCancelling = false →
      (∀ owned, f.call.owner ≠ .worker owned) →
      Step convert f (.finish ending)
        { f with
          call := { f.call with owner := .vacated }
          lock := none
          task := .leaving
          cancels := f.cancels.map .notified }
        [.acquire .owner, .log Call.discardedEvent, .notifyVacated, .release .owner]
  /-- The task goes away and nobody has claimed the call. -/
  | rejected {f : Flight ω α} :
      f.lock = none → f.task = .queued ∨ f.task = .leaving → f.call.owner = .unclaimed →
      Step convert f .abandon
        { f with
          call := { f.call with owner := .vacated }
          lock := some ⟨.task, .settle (.failed .executorRejected)⟩
          task := .gone }
        [.acquire .owner, .log Call.droppedEvent]
  /-- The task goes away and has nothing to say. -/
  | departed {f : Flight ω α} :
      f.lock = none → f.task = .queued ∨ f.task = .leaving → f.call.owner ≠ .unclaimed →
      Step convert f .abandon { f with lock := none, task := .gone }
        [.acquire .owner, .release .owner]
  /-- A cancel finds no worker. -/
  | preempted {f : Flight ω α} {byWorker interrupt : Bool} :
      f.lock = none → f.MayCancel byWorker →
      f.call.owner = .unclaimed ∨ f.call.owner = .vacated →
      Step convert f (.cancel byWorker interrupt)
        { f with
          call := { f.call with owner := .vacated }
          lock := some ⟨.canceller f.cancels.length, .settle .cancelled⟩
          cancels := f.cancels ++ [⟨byWorker, interrupt, .settling⟩] }
        [.acquire .owner]
  /-- A cancel displaces the worker and parks. -/
  | displacing {f : Flight ω α} {byWorker interrupt : Bool} {flag : Interrupt} :
      f.lock = none → f.MayCancel byWorker → f.call.owner = .worker flag →
      Step convert f (.cancel byWorker interrupt)
        { f with
          call := { f.call with
            owner := .canceller flag interrupt
            interrupts := f.call.interrupts + interrupt.toNat }
          lock := none
          cancels := f.cancels ++ [⟨byWorker, interrupt, .parked false⟩] }
        (.acquire .owner ::
          (if interrupt then [.log Call.interruptingEvent, .raise flag] else []) ++
            [.release .owner])
  /-- A cancel joins those who wait for the worker. -/
  | joined {f : Flight ω α} {byWorker interrupt raised : Bool} {flag : Interrupt} :
      f.lock = none → f.MayCancel byWorker → f.call.owner = .canceller flag raised →
      Step convert f (.cancel byWorker interrupt)
        { f with
          call := { f.call with
            owner := .canceller flag (raised || interrupt)
            interrupts := f.call.interrupts + (interrupt && !raised).toNat }
          lock := none
          cancels := f.cancels ++ [⟨byWorker, interrupt, .parked false⟩] }
        (.acquire .owner :: .log Call.alreadyCancellingEvent ::
          (if interrupt && !raised then [.raise flag] else []) ++ [.release .owner])
  /-- A parked cancel looks again and still finds a canceller. -/
  | stayed {f : Flight ω α} {position : Nat} {byWorker interrupt raised : Bool}
      {flag : Interrupt} :
      f.lock = none → f.cancels[position]? = some ⟨byWorker, interrupt, .parked true⟩ →
      f.call.owner = .canceller flag raised →
      Step convert f (.resume position)
        { f with
          lock := none
          cancels := f.cancels.set position ⟨byWorker, interrupt, .parked false⟩ }
        [.acquire .owner, .release .owner]
  /-- A parked cancel looks again and the worker has left. -/
  | resumed {f : Flight ω α} {position : Nat} {byWorker interrupt : Bool} :
      f.lock = none → f.cancels[position]? = some ⟨byWorker, interrupt, .parked true⟩ →
      (∀ flag raised, f.call.owner ≠ .canceller flag raised) →
      Step convert f (.resume position)
        { f with
          lock := some ⟨.canceller position, .settle .cancelled⟩
          cancels := f.cancels.set position ⟨byWorker, interrupt, .settling⟩ }
        [.acquire .owner]
  /-- The holder of the owner lock writes the slot. -/
  | settled {f : Flight ω α} {party : Party} {outcome : CallOutcome α} {wakers : List ω} :
      f.lock = some ⟨party, .settle outcome⟩ → f.call.slot = .waiting wakers →
      Step convert f .settle
        { f with
          call := { f.call with slot := .done outcome }
          lock := some ⟨party, .wake wakers⟩ }
        [.acquire .slot, .release .slot, .notifySettled]
  /-- The holder of the owner lock finds the slot written. -/
  | ignored {f : Flight ω α} {party : Party} {outcome written : CallOutcome α} :
      f.lock = some ⟨party, .settle outcome⟩ → f.call.slot = .done written →
      Step convert f .settle { f with lock := some ⟨party, .wake []⟩ }
        [.acquire .slot, .release .slot]
  /-- The holder of the owner lock wakes a waker. -/
  | woke {f : Flight ω α} {party : Party} {waker : ω} {rest : List ω} :
      f.lock = some ⟨party, .wake (waker :: rest)⟩ →
      Step convert f .wake { f with lock := some ⟨party, .wake rest⟩ } [.wake waker]
  /-- The worker has published its outcome, vacates the call and notifies. -/
  | vacated {f : Flight ω α} :
      f.lock = some ⟨.worker, .wake []⟩ →
      Step convert f .release
        { f with
          call := { f.call with owner := .vacated }
          lock := none
          cancels := f.cancels.map .notified }
        [.notifyVacated, .release .owner]
  /-- The task that goes away gives the lock back. -/
  | letGo {f : Flight ω α} :
      f.lock = some ⟨.task, .wake []⟩ →
      Step convert f .release { f with lock := none } [.release .owner]
  /-- A cancel gives the lock back. -/
  | released {f : Flight ω α} {position : Nat} :
      f.lock = some ⟨.canceller position, .wake []⟩ →
      Step convert f .release
        { f with
          lock := none
          cancels := f.cancels.modify position fun c => { c with phase := .reading } }
        [.release .owner]
  /-- A cancel reads its answer. -/
  | answered {f : Flight ω α} {position : Nat} {byWorker interrupt : Bool} :
      f.cancels[position]? = some ⟨byWorker, interrupt, .reading⟩ →
      Step convert f (.read position)
        { f with
          cancels := f.cancels.set position
            ⟨byWorker, interrupt, .answered (f.call.status == .cancelled)⟩ }
        [.acquire .slot, .release .slot]
  /-- Somebody polls the call. -/
  | polled {f : Flight ω α} {waker : ω} :
      Step convert f (.poll waker) { f with call := (f.call.poll waker).call }
        [.acquire .slot, .release .slot]
  /-- Somebody looks at the call. -/
  | looked {f : Flight ω α} :
      Step convert f .look f [.acquire .slot, .release .slot]

/-! ### What is computed is a step -/

namespace Step

variable {f g : Flight ω α} {effects : List (Effect ω)}

/-- What `claim?` computes is a step. -/
theorem of_claim? {fresh : Interrupt} (h : f.claim? fresh = some (g, effects)) :
    Step convert f (.claim fresh) g effects := by
  unfold claim? at h
  split at h
  next hif =>
    obtain ⟨hlock, htask⟩ := hif
    cases howner : f.call.owner with
    | unclaimed =>
        simp only [Call.claim, howner, Option.some.injEq, Prod.mk.injEq] at h
        obtain ⟨rfl, rfl⟩ := h
        exact .claimed hlock htask howner
    | _ =>
        simp only [Call.claim, howner, Option.some.injEq, Prod.mk.injEq] at h
        obtain ⟨rfl, rfl⟩ := h
        exact .refused hlock htask (by simp [howner])
  next => cases h

/-- What `invoke?` computes is a step. -/
theorem of_invoke? (h : f.invoke? = some (g, effects)) :
    Step convert f .invoke g effects := by
  unfold invoke? at h
  split at h
  next htask =>
    obtain ⟨rfl, rfl⟩ := Prod.mk.inj (Option.some.inj h)
    exact .invoked htask
  next => cases h

/-- What `finish?` computes is a step. -/
theorem of_finish? {ending : Ending} (h : f.finish? convert ending = some (g, effects)) :
    Step convert f (.finish ending) g effects := by
  unfold finish? at h
  split at h
  next hif =>
    obtain ⟨hlock, hrunning, hfree⟩ := hif
    obtain ⟨flag, htask⟩ : ∃ flag, f.task = .running flag := by
      cases htask : f.task <;> simp_all [TaskPhase.isRunning]
    cases howner : f.call.owner with
    | worker owned =>
        simp only [Call.finish, howner, Option.some.injEq, Prod.mk.injEq] at h
        obtain ⟨rfl, rfl⟩ := h
        exact .finished hlock htask hfree howner
    | _ =>
        simp only [Call.finish, howner, Option.some.injEq, Prod.mk.injEq] at h
        obtain ⟨rfl, rfl⟩ := h
        exact .discarded hlock htask hfree (by simp [howner])
  next => cases h

/-- What `abandon?` computes is a step. -/
theorem of_abandon? (h : f.abandon? = some (g, effects)) :
    Step convert f .abandon g effects := by
  unfold abandon? at h
  split at h
  next hif =>
    obtain ⟨hlock, htask⟩ := hif
    cases howner : f.call.owner with
    | unclaimed =>
        simp only [Call.abandon, howner, Option.some.injEq, Prod.mk.injEq] at h
        obtain ⟨rfl, rfl⟩ := h
        exact .rejected hlock htask howner
    | _ =>
        simp only [Call.abandon, howner, Option.some.injEq, Prod.mk.injEq] at h
        obtain ⟨rfl, rfl⟩ := h
        exact .departed hlock htask (by simp [howner])
  next => cases h

/-- What `cancel?` computes is a step. -/
theorem of_cancel? {byWorker interrupt : Bool}
    (h : f.cancel? byWorker interrupt = some (g, effects)) :
    Step convert f (.cancel byWorker interrupt) g effects := by
  unfold cancel? at h
  split at h
  next hif =>
    obtain ⟨hlock, hmay⟩ := hif
    obtain ⟨rfl, rfl⟩ := Prod.mk.inj (Option.some.inj h)
    -- The fields of the call are taken apart so that a call left as it was is still a literal.
    obtain ⟨⟨owner, slot, interrupts⟩, lock, task, cancels⟩ := f
    cases owner with
    | unclaimed => exact .preempted hlock hmay (.inl rfl)
    | vacated => exact .preempted hlock hmay (.inr rfl)
    | worker flag => cases interrupt <;> exact .displacing hlock hmay rfl
    | canceller flag raised =>
        cases interrupt <;> cases raised <;> exact .joined hlock hmay rfl
  next => cases h

/-- What `resume?` computes is a step. -/
theorem of_resume? {position : Nat} (h : f.resume? position = some (g, effects)) :
    Step convert f (.resume position) g effects := by
  unfold resume? at h
  split at h
  next hcancel =>
    split at h
    next hlock =>
      obtain ⟨hg, heffects⟩ := Prod.mk.inj (Option.some.inj h)
      cases howner : f.call.owner with
      | canceller flag raised =>
          simp only [Call.resume, howner] at hg heffects
          subst hg heffects
          exact .stayed hlock hcancel howner
      | _ =>
          simp only [Call.resume, howner] at hg heffects
          subst hg heffects
          exact .resumed hlock hcancel (by simp [howner])
    next => cases h
  next => cases h

/-- What `read?` computes is a step. -/
theorem of_read? {position : Nat} (h : f.read? position = some (g, effects)) :
    Step convert f (.read position) g effects := by
  unfold read? at h
  split at h
  next hcancel =>
    obtain ⟨rfl, rfl⟩ := Prod.mk.inj (Option.some.inj h)
    exact .answered hcancel
  next => cases h

/-- What `settle?` computes is a step. -/
theorem of_settle? (h : f.settle? = some (g, effects)) : Step convert f .settle g effects := by
  unfold settle? at h
  split at h
  next hlock =>
    cases hslot : f.call.slot with
    | waiting wakers =>
        simp only [Call.settle, hslot, Option.some.injEq, Prod.mk.injEq] at h
        obtain ⟨rfl, rfl⟩ := h
        exact .settled hlock hslot
    | done written =>
        simp only [Call.settle, hslot, Option.some.injEq, Prod.mk.injEq] at h
        obtain ⟨rfl, rfl⟩ := h
        exact .ignored hlock hslot
  next => cases h

/-- What `wake?` computes is a step. -/
theorem of_wake? (h : f.wake? = some (g, effects)) : Step convert f .wake g effects := by
  unfold wake? at h
  split at h
  next hlock =>
    obtain ⟨rfl, rfl⟩ := Prod.mk.inj (Option.some.inj h)
    exact .woke hlock
  next => cases h

/-- What `release?` computes is a step. -/
theorem of_release? (h : f.release? = some (g, effects)) :
    Step convert f .release g effects := by
  unfold release? at h
  split at h
  next party hlock =>
    cases party with
    | worker =>
        obtain ⟨rfl, rfl⟩ := Prod.mk.inj (Option.some.inj h)
        exact .vacated hlock
    | task =>
        obtain ⟨rfl, rfl⟩ := Prod.mk.inj (Option.some.inj h)
        exact .letGo hlock
    | canceller position =>
        obtain ⟨rfl, rfl⟩ := Prod.mk.inj (Option.some.inj h)
        exact .released hlock
  next => cases h

end Step

/-- **One step**, as computed, is one of the steps. -/
theorem step_of_step? {f g : Flight ω α} {a : Action ω} {effects : List (Effect ω)}
    (h : f.step? convert a = some (g, effects)) : Step convert f a g effects := by
  cases a with
  | claim fresh => exact .of_claim? h
  | invoke => exact .of_invoke? h
  | finish ending => exact .of_finish? h
  | abandon => exact .of_abandon? h
  | cancel byWorker interrupt => exact .of_cancel? h
  | resume position => exact .of_resume? h
  | settle => exact .of_settle? h
  | wake => exact .of_wake? h
  | release => exact .of_release? h
  | read position => exact .of_read? h
  | poll waker =>
      obtain ⟨rfl, rfl⟩ := Prod.mk.inj (Option.some.inj h)
      rw [Call.poll_effects]
      exact .polled
  | look =>
      obtain ⟨rfl, rfl⟩ := Prod.mk.inj (Option.some.inj h)
      exact .looked

/-! ### Runs -/

/-- A run of a flight is an interleaving of its steps. -/
theorem run?_eq_interleaving (f : Flight ω α) (actions : List (Action ω)) :
    f.run? convert actions = Interleaving.run? (Flight.step? convert) f actions := by
  induction actions generalizing f with
  | nil => rfl
  | cons a rest ih =>
      rw [run?, Interleaving.run?]
      cases f.step? convert a with
      | none => rfl
      | some r => simp only [ih]

/-- **Induction along a run**: what holds of a flight after some actions with some effects,
and is kept by every step, holds after the run. -/
theorem run?_induction {P : List (Action ω) → List (Effect ω) → Flight ω α → Prop}
    (hstep : ∀ {done effects f a g new}, P done effects f → Step convert f a g new →
      P (done ++ [a]) (effects ++ new) g)
    (done : List (Action ω)) (effects : List (Effect ω)) {actions : List (Action ω)}
    {new : List (Effect ω)} {f g : Flight ω α} (hstart : P done effects f)
    (hrun : f.run? convert actions = some (g, new)) :
    P (done ++ actions) (effects ++ new) g := by
  rw [run?_eq_interleaving] at hrun
  exact Interleaving.run?_induction (fun h ha => hstep h (step_of_step? ha)) done effects hstart
    hrun

/-! ### The slot is written once -/

/-- A step leaves an outcome as it is. -/
theorem Step.outcome?_eq {f g : Flight ω α} {a : Action ω} {effects : List (Effect ω)}
    {outcome : CallOutcome α} (hstep : Step convert f a g effects)
    (hdone : f.call.outcome? = some outcome) : g.call.outcome? = some outcome := by
  cases hstep with
  | settled _ hslot => simp [Call.outcome?, hslot] at hdone
  | polled => rw [Call.poll_outcome?, hdone]
  | _ => exact hdone

/-- **Write-once**: a run leaves an outcome as it is. -/
theorem outcome?_of_run? {f g : Flight ω α} {actions : List (Action ω)}
    {effects : List (Effect ω)} {outcome : CallOutcome α}
    (hrun : f.run? convert actions = some (g, effects))
    (hdone : f.call.outcome? = some outcome) : g.call.outcome? = some outcome :=
  run?_induction (P := fun _ _ f => f.call.outcome? = some outcome)
    (fun h hstep => hstep.outcome?_eq h) [] [] hdone hrun

end CallGate.Flight

import CallGate.Call
import CallGate.Controller

/-!
# Calls in flight

A call together with everybody who acts on it: the task that carries it to a worker, the
cancels that were begun, some of them parked, and whoever holds the owner lock while the slot
is looked after. A `Flight` moves by actions, each one a section of the call or a move of its
task; a list of actions is an interleaving, because between any two of them somebody else may
act.

The owner lock is the only lock that is held from one action to a later one. While somebody
holds it, the others can still reach the slot, but no section of the owner can begin.

* `Flight.step?` — one action, or nothing when the action cannot happen here.
* `Flight.run?` — a list of actions, with everything that happened on the way.
* `Flight.remaining` — the actions left to whoever holds the owner lock.

A task is used up once: it claims the call or is dropped, and goes away at the end. The
worker itself may cancel the call it runs. It is then parked like any other canceller, and
while its cancel is under way it cannot finish.
-/

namespace CallGate

/-! ### Parties -/

/-- Where the **task** of a call is. -/
inductive TaskPhase where
  /-- In the executor's hands, not begun. -/
  | queued
  /-- A worker has claimed the call and got its flag; the controller is not invoked yet. -/
  | claimed (interrupt : Interrupt)
  /-- The controller was invoked with the flag; the result is not handed in yet. -/
  | running (interrupt : Interrupt)
  /-- The task has nothing more to do than to go away. -/
  | leaving
  /-- The task is gone. -/
  | gone
deriving DecidableEq, Repr

/-- The flag of the worker, while one is between its claim and its finish. -/
def TaskPhase.flag? : TaskPhase → Option Interrupt
  | claimed interrupt | running interrupt => some interrupt
  | queued | leaving | gone => none

/-- Whether the controller was invoked and its result is not handed in yet. -/
def TaskPhase.isRunning : TaskPhase → Bool
  | running _ => true
  | _ => false

/-- Where a **cancel** is. -/
inductive CancelPhase where
  /-- Waiting for the worker to leave; notified once it has left. -/
  | parked (notified : Bool)
  /-- Holding the owner lock, to settle the call. -/
  | settling
  /-- About to read the status, with no lock. -/
  | reading
  /-- Over. -/
  | answered (cancelled : Bool)
deriving DecidableEq, Repr

/-- A **cancel** that was begun. -/
structure Cancel where
  byWorker : Bool
  interrupt : Bool
  phase : CancelPhase
deriving DecidableEq, Repr

namespace Cancel

/-- The answer, once there is one. -/
def answer? (c : Cancel) : Option Bool :=
  match c.phase with
  | .answered cancelled => some cancelled
  | _ => none

/-- The cancel after the worker has left. -/
def notified (c : Cancel) : Cancel :=
  match c.phase with
  | .parked _ => { c with phase := .parked true }
  | _ => c

/-- The phase of a cancel after a section of the owner: it holds the lock if the section led
to an outcome, and is parked if not. -/
def phaseAfter {α : Type} : Option (CallOutcome α) → CancelPhase
  | some _ => .settling
  | none => .parked false

end Cancel

/-! ### The owner lock -/

/-- Who **holds** the owner lock. -/
inductive Party where
  /-- The worker in its finish. -/
  | worker
  /-- The task that goes away. -/
  | task
  /-- A cancel, known by its position. -/
  | canceller (position : Nat)
deriving DecidableEq, Repr

/-- What the holder of the owner lock has still to do before it gives the lock back. -/
inductive Duty (ω α : Type) where
  /-- An outcome is to be written to the slot. -/
  | settle (outcome : CallOutcome α)
  /-- The slot is written; these wakers are to be woken. -/
  | wake (wakers : List ω)
deriving DecidableEq, Repr

/-- The owner lock in somebody's hands. -/
structure Tenure (ω α : Type) where
  party : Party
  duty : Duty ω α
deriving DecidableEq, Repr

/-! ### Flights -/

/-- A **call in flight**. -/
structure Flight (ω α : Type) where
  call : Call ω α := {}
  /-- The owner lock, while somebody holds it. -/
  lock : Option (Tenure ω α) := none
  task : TaskPhase := .queued
  cancels : List Cancel := []
deriving DecidableEq, Repr

/-- An **action** on a call in flight. Cancels are known by their position. -/
inductive Action (ω : Type) where
  | claim (fresh : Interrupt)
  | invoke
  | finish (ending : Ending)
  | abandon
  | cancel (byWorker interrupt : Bool)
  | resume (position : Nat)
  | settle
  | wake
  | release
  | read (position : Nat)
  | poll (waker : ω)
  | look

namespace Flight

variable {ω α : Type}

/-- Whether the worker is in a cancel of its own. -/
def workerCancelling (f : Flight ω α) : Bool :=
  f.cancels.any fun c => c.byWorker && c.answer?.isNone

/-- The flight after a section of the owner: a section that led to an outcome leaves the lock
in the hands of its party. -/
def after (f : Flight ω α) (party : Party) (s : Section ω α (Option (CallOutcome α))) :
    Flight ω α :=
  { f with call := s.call, lock := s.value.map fun outcome => ⟨party, .settle outcome⟩ }

/-- The flight after the worker has left: every parked cancel is notified. -/
def notified (f : Flight ω α) : Flight ω α := { f with cancels := f.cancels.map .notified }

/-! ### The task -/

/-- The worker takes the task up. When a canceller was there first, it says so and runs
nothing. -/
def claim? (f : Flight ω α) (fresh : Interrupt) : Option (Flight ω α × List (Effect ω)) :=
  if f.lock = none ∧ f.task = .queued then
    let s := f.call.claim fresh
    match s.value with
    | some flag => some ({ f with call := s.call, task := .claimed flag }, s.effects)
    | none =>
      some ({ f with call := s.call, task := .leaving },
        s.effects ++ [.log Call.cancelledBeforeDispatchEvent])
  else none

/-- The worker invokes the controller. -/
def invoke? (f : Flight ω α) : Option (Flight ω α × List (Effect ω)) :=
  match f.task with
  | .claimed flag => some ({ f with task := .running flag }, [.invoke flag])
  | _ => none

/-- The worker hands in how the controller's run ended. -/
def finish? (convert : Response → α) (f : Flight ω α) (ending : Ending) :
    Option (Flight ω α × List (Effect ω)) :=
  if f.lock = none ∧ f.task.isRunning = true ∧ f.workerCancelling = false then
    let s := f.call.finish convert ending.result
    let next := ({ f with task := .leaving } : Flight ω α).after .worker s
    some (if s.value.isSome then next else next.notified, s.effects)
  else none

/-- The task goes away, at its end or unrun. -/
def abandon? (f : Flight ω α) : Option (Flight ω α × List (Effect ω)) :=
  if f.lock = none ∧ (f.task = .queued ∨ f.task = .leaving) then
    let s := f.call.abandon
    some (({ f with task := .gone } : Flight ω α).after .task s, s.effects)
  else none

/-! ### Cancels -/

/-- Who **may cancel**: anybody else at any time, the worker only while the controller runs and
one cancel at a time. -/
def MayCancel (f : Flight ω α) (byWorker : Bool) : Prop :=
  byWorker = true → f.task.isRunning = true ∧ f.workerCancelling = false

instance (f : Flight ω α) (byWorker : Bool) : Decidable (f.MayCancel byWorker) :=
  inferInstanceAs (Decidable (_ → _))

/-- Somebody begins a cancel. -/
def cancel? (f : Flight ω α) (byWorker interrupt : Bool) :
    Option (Flight ω α × List (Effect ω)) :=
  if f.lock = none ∧ f.MayCancel byWorker then
    let s := f.call.cancel interrupt
    let next := f.after (.canceller f.cancels.length) s
    some ({ next with
      cancels := f.cancels ++ [⟨byWorker, interrupt, Cancel.phaseAfter s.value⟩] }, s.effects)
  else none

/-- A parked cancel that was notified looks again. -/
def resume? (f : Flight ω α) (position : Nat) : Option (Flight ω α × List (Effect ω)) :=
  match f.cancels[position]? with
  | some ⟨byWorker, interrupt, .parked true⟩ =>
    if f.lock = none then
      let s := f.call.resume
      let next := f.after (.canceller position) s
      some ({ next with
        cancels := f.cancels.set position ⟨byWorker, interrupt, Cancel.phaseAfter s.value⟩ },
        s.effects)
    else none
  | _ => none

/-- A cancel that has given the owner lock back reads the status, which is its answer. -/
def read? (f : Flight ω α) (position : Nat) : Option (Flight ω α × List (Effect ω)) :=
  match f.cancels[position]? with
  | some ⟨byWorker, interrupt, .reading⟩ =>
    let s := f.call.look
    some ({ f with
      cancels := f.cancels.set position ⟨byWorker, interrupt, .answered (s.value == .cancelled)⟩ },
      s.effects)
  | _ => none

/-! ### The holder of the owner lock -/

/-- The holder of the owner lock writes its outcome to the slot. -/
def settle? (f : Flight ω α) : Option (Flight ω α × List (Effect ω)) :=
  match f.lock with
  | some ⟨party, .settle outcome⟩ =>
    let s := f.call.settle outcome
    some ({ f with call := s.call, lock := some ⟨party, .wake s.value⟩ }, s.effects)
  | _ => none

/-- The holder of the owner lock wakes the next waker. -/
def wake? (f : Flight ω α) : Option (Flight ω α × List (Effect ω)) :=
  match f.lock with
  | some ⟨party, .wake (waker :: rest)⟩ =>
    some ({ f with lock := some ⟨party, .wake rest⟩ }, [.wake waker])
  | _ => none

/-- The flight after a cancel has given the owner lock back. -/
def reading (f : Flight ω α) (position : Nat) : Flight ω α :=
  { f with cancels := f.cancels.modify position fun c => { c with phase := .reading } }

/-- The holder of the owner lock gives it back; a worker vacates the call before. -/
def release? (f : Flight ω α) : Option (Flight ω α × List (Effect ω)) :=
  match f.lock with
  | some ⟨party, .wake []⟩ =>
    let free : Flight ω α := { f with lock := none }
    match party with
    | .worker =>
      let s := f.call.vacate
      some (({ free with call := s.call } : Flight ω α).notified, s.effects)
    | .task => some (free, [.release .owner])
    | .canceller position => some (free.reading position, [.release .owner])
  | _ => none

/-- The actions **left** to whoever holds the owner lock, with the answer of a cancel. -/
def remaining (f : Flight ω α) : List (Action ω) :=
  match f.lock with
  | none => []
  | some ⟨party, duty⟩ =>
    let slot : List (Action ω) :=
      match duty with
      | .settle _ => .settle :: f.call.wakers.map fun _ => .wake
      | .wake wakers => wakers.map fun _ => .wake
    let answer : List (Action ω) :=
      match party with
      | .canceller position => [.read position]
      | .worker | .task => []
    slot ++ .release :: answer

/-! ### Steps and interleavings -/

/-- One **step**. -/
def step? [BEq ω] (convert : Response → α) (f : Flight ω α) :
    Action ω → Option (Flight ω α × List (Effect ω))
  | .claim fresh => f.claim? fresh
  | .invoke => f.invoke?
  | .finish ending => f.finish? convert ending
  | .abandon => f.abandon?
  | .cancel byWorker interrupt => f.cancel? byWorker interrupt
  | .resume position => f.resume? position
  | .settle => f.settle?
  | .wake => f.wake?
  | .release => f.release?
  | .read position => f.read? position
  | .poll waker =>
    let s := f.call.poll waker
    some ({ f with call := s.call }, s.effects)
  | .look => some (f, f.call.look.effects)

/-- An **interleaving**: actions one after the other, and all their effects in order. -/
def run? [BEq ω] (convert : Response → α) (f : Flight ω α) :
    List (Action ω) → Option (Flight ω α × List (Effect ω))
  | [] => some (f, [])
  | a :: rest =>
    match f.step? convert a with
    | none => none
    | some (next, effects) =>
      (run? convert next rest).map fun r => (r.1, effects ++ r.2)

/-- The answer of a cancel, once it has one. -/
def answer? (f : Flight ω α) (position : Nat) : Option Bool :=
  (f.cancels[position]?).bind Cancel.answer?

end Flight

end CallGate

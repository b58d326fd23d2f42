import CallGate.Context
import CallGate.Log.Event
import CallGate.Response

/-!
# Calls

One asynchronous call, shared by the worker that runs it, by everybody who cancels it and
by everybody who waits for it. Its *owner* decides in one place whose word counts:

* `unclaimed` — no worker has taken the call;
* `worker` — a worker runs it and may still publish a result;
* `canceller` — a canceller has displaced the running worker and waits for it to leave;
* `vacated` — nobody will publish a result any more.

Its *slot* holds the outcome, written once, and until then the wakers to be woken by it.
Each of the two has a lock of its own, and the owner lock is always taken before the slot
lock.

Every function here is a section between two points at which somebody else may act: it takes
one lock at most. It says what the section returns, the call afterwards, and what the section
did on the way, in order: which locks it took and gave back, what it logged, which flag it
raised. A section of the owner that leads to an outcome returns that outcome and keeps the
owner lock, because the slot is written under it; any other gives the lock back. A waker is
anything with an equality test, which says whether two wakers would wake the same task.

* `Call.claim`, `Call.finish`, `Call.vacate`, `Call.abandon` — the worker's sections.
* `Call.cancel`, `Call.resume` — a canceller's sections, before and after it was parked.
* `Call.settle` — the one section that writes the slot.
* `Call.poll`, `Call.look` — observation.
-/

namespace CallGate

/-! ### State -/

/-- The **owner** of a call. A worker's interrupt flag stays known while a canceller waits
for it, together with whether it was raised. The threads of the worker and of the canceller are
left out: they are other ones in every run, and nothing is decided by them, not even whether a
cancel is made on the thread of the worker. -/
inductive Owner where
  | unclaimed
  | worker (interrupt : Interrupt)
  | canceller (interrupt : Interrupt) (raised : Bool)
  | vacated
deriving DecidableEq, Repr

/-- The **slot** of a call. -/
inductive Slot (ω α : Type) where
  | waiting (wakers : List ω)
  | done (outcome : CallOutcome α)
deriving DecidableEq, Repr

/-- A **call**. It counts how often its worker was interrupted. -/
structure Call (ω α : Type) where
  owner : Owner := .unclaimed
  slot : Slot ω α := .waiting []
  interrupts : Nat := 0
deriving DecidableEq, Repr

/-! ### Effects -/

/-- The **locks** of a call, in the order in which they may be taken. -/
inductive Lock where
  | owner
  | slot
deriving DecidableEq, Repr

/-- An **effect** of a section, or of the task of a call between two sections. -/
inductive Effect (ω : Type) where
  | acquire (lock : Lock)
  | release (lock : Lock)
  | log (event : Log.Event)
  | raise (interrupt : Interrupt)
  | notifyVacated
  | notifySettled
  | wake (waker : ω)
  /-- The controller is invoked, with a flag that tells it whether it is interrupted. -/
  | invoke (interrupt : Interrupt)
deriving DecidableEq, Repr

namespace Signals

variable {ω : Type}

/-- The flags after an effect. -/
def apply (s : Signals) : Effect ω → Signals
  | .raise flag => s.raise flag
  | _ => s

/-- The flags **after** some effects. -/
def after (s : Signals) (effects : List (Effect ω)) : Signals := effects.foldl apply s

end Signals

/-- What a **section** came to. -/
structure Section (ω α β : Type) where
  value : β
  call : Call ω α
  effects : List (Effect ω)

namespace Call

variable {ω α : Type}

/-! ### The log of a call

Three of these events have a field besides: an interruption names the thread of the worker, a cancel
that joins names that of the canceller it joins, and a discarded result names the owner it found.
The fields are left out, as the threads are. -/

/-- The event of a call that its executor dropped. -/
def droppedEvent : Log.Event :=
  .plain .warn Log.client "executor dropped the call before it ran"

/-- The event of a task that came too late. -/
def cancelledBeforeDispatchEvent : Log.Event :=
  .plain .debug Log.client "call cancelled before dispatch"

/-- The event of a worker that was displaced before it could publish. -/
def discardedEvent : Log.Event :=
  .plain .debug Log.client "discarding result of a call claimed by a canceller"

/-- The event of a canceller that displaces and interrupts a worker. -/
def interruptingEvent : Log.Event :=
  .plain .debug Log.client "interrupting running call"

/-- The event of a canceller that joins another one. -/
def alreadyCancellingEvent : Log.Event :=
  .plain .debug Log.client "cancel already in progress"

/-! ### The slot -/

/-- The status that the slot shows. -/
def status (c : Call ω α) : Status :=
  match c.slot with
  | .waiting _ => .waiting
  | .done outcome => outcome.status

/-- The outcome, once there is one. -/
def outcome? (c : Call ω α) : Option (CallOutcome α) :=
  match c.slot with
  | .waiting _ => none
  | .done outcome => some outcome

/-- Once there is an outcome, the slot shows its status. -/
theorem status_of_outcome? {c : Call ω α} {o : CallOutcome α} (h : c.outcome? = some o) :
    c.status = o.status := by
  unfold outcome? at h
  split at h
  · cases h
  next hslot => rw [status, hslot, Option.some.inj h]

/-- Until there is an outcome, the slot shows that it waits. -/
theorem status_of_waiting {c : Call ω α} (h : c.outcome? = none) : c.status = .waiting := by
  unfold outcome? at h
  split at h
  next hslot => rw [status, hslot]
  · cases h

/-- The wakers on the list; none once there is an outcome. -/
def wakers (c : Call ω α) : List ω :=
  match c.slot with
  | .waiting wakers => wakers
  | .done _ => []

/-- **Settles** a call: the first outcome is written and everybody who waits is told, later
ones are ignored. The section returns the wakers to be woken, after the slot lock is back. -/
def settle (c : Call ω α) (outcome : CallOutcome α) : Section ω α (List ω) :=
  match c.slot with
  | .done _ => ⟨[], c, [.acquire .slot, .release .slot]⟩
  | .waiting wakers =>
    ⟨wakers, { c with slot := .done outcome },
      [.acquire .slot, .release .slot, .notifySettled]⟩

/-- **Looks** at a call: its status. -/
def look (c : Call ω α) : Section ω α Status :=
  ⟨c.status, c, [.acquire .slot, .release .slot]⟩

/-- **Polls** a call: its outcome, or nothing yet, and then the waker is on the list, once. -/
def poll [BEq ω] (c : Call ω α) (waker : ω) : Section ω α (Option (CallOutcome α)) :=
  let effects := [.acquire .slot, .release .slot]
  match c.slot with
  | .done outcome => ⟨some outcome, c, effects⟩
  | .waiting wakers =>
    if wakers.any (· == waker) then ⟨none, c, effects⟩
    else ⟨none, { c with slot := .waiting (wakers ++ [waker]) }, effects⟩

/-- A poll changes nothing but the list of wakers. -/
@[simp]
theorem poll_owner [BEq ω] (c : Call ω α) (waker : ω) : (c.poll waker).call.owner = c.owner := by
  unfold poll
  split
  · rfl
  · split <;> rfl

/-- A poll interrupts nobody. -/
@[simp]
theorem poll_interrupts [BEq ω] (c : Call ω α) (waker : ω) :
    (c.poll waker).call.interrupts = c.interrupts := by
  unfold poll
  split
  · rfl
  · split <;> rfl

/-- A poll takes the slot lock and gives it back. -/
@[simp]
theorem poll_effects [BEq ω] (c : Call ω α) (waker : ω) :
    (c.poll waker).effects = [.acquire .slot, .release .slot] := by
  unfold poll
  split
  · rfl
  · split <;> rfl

/-- A poll returns the outcome, if there is one. -/
@[simp]
theorem poll_value [BEq ω] (c : Call ω α) (waker : ω) : (c.poll waker).value = c.outcome? := by
  cases hslot : c.slot with
  | done outcome => simp [poll, outcome?, hslot]
  | waiting wakers =>
    by_cases h : wakers.any (· == waker) = true <;> simp [poll, outcome?, hslot, h]

/-- A poll settles nothing. -/
@[simp]
theorem poll_outcome? [BEq ω] (c : Call ω α) (waker : ω) :
    (c.poll waker).call.outcome? = c.outcome? := by
  cases hslot : c.slot with
  | done outcome => simp [poll, outcome?, hslot]
  | waiting wakers =>
    by_cases h : wakers.any (· == waker) = true <;> simp [poll, outcome?, hslot, h]

/-! ### The worker -/

/-- The worker's **claim**: it gets a flag of its own, or nothing when a canceller was there
first, and then it must not run the call. -/
def claim (c : Call ω α) (fresh : Interrupt) : Section ω α (Option Interrupt) :=
  let effects := [.acquire .owner, .release .owner]
  match c.owner with
  | .unclaimed => ⟨some fresh, { c with owner := .worker fresh }, effects⟩
  | _ => ⟨none, c, effects⟩

/-- The outcome of a result: a fault fails the call, a document that reports its operation
as cancelled makes the call cancelled, any other response completes it. -/
def outcomeOf (convert : Response → α) : Except Fault Response → CallOutcome α
  | .error fault => .failed fault
  | .ok response => if response.isCancelled then .cancelled else .completed (convert response)

/-- The worker's **finish**: a worker that still owns the call goes on to publish its
outcome. Otherwise the result is dropped, the call is vacated and the cancellers that wait
for that are notified. -/
def finish (c : Call ω α) (convert : Response → α) (result : Except Fault Response) :
    Section ω α (Option (CallOutcome α)) :=
  match c.owner with
  | .worker _ => ⟨some (outcomeOf convert result), c, [.acquire .owner]⟩
  | _ =>
    ⟨none, { c with owner := .vacated },
      [.acquire .owner, .log discardedEvent, .notifyVacated, .release .owner]⟩

/-- The worker **vacates** the call once it has published its outcome. -/
def vacate (c : Call ω α) : Section ω α Unit :=
  ⟨(), { c with owner := .vacated }, [.notifyVacated, .release .owner]⟩

/-- What happens when the **task goes away**, after it ran or unrun: a call that nobody has
claimed is to fail as rejected, any other is left alone. -/
def abandon (c : Call ω α) : Section ω α (Option (CallOutcome α)) :=
  match c.owner with
  | .unclaimed =>
    ⟨some (.failed .executorRejected), { c with owner := .vacated },
      [.acquire .owner, .log droppedEvent]⟩
  | _ => ⟨none, c, [.acquire .owner, .release .owner]⟩

/-! ### Cancellers -/

/-- The first part of a **cancel**. It goes on to settle the call as cancelled where no worker
runs the call. Else it is parked, which gives the owner lock back: after displacing the
worker, and interrupting it if asked to; or after joining the canceller that did, and then
the flag is raised only if nobody has raised it. -/
def cancel (c : Call ω α) (interrupt : Bool) : Section ω α (Option (CallOutcome α)) :=
  match c.owner with
  | .unclaimed => ⟨some .cancelled, { c with owner := .vacated }, [.acquire .owner]⟩
  | .vacated => ⟨some .cancelled, c, [.acquire .owner]⟩
  | .worker flag =>
    if interrupt then
      ⟨none, { c with owner := .canceller flag true, interrupts := c.interrupts + 1 },
        [.acquire .owner, .log interruptingEvent, .raise flag, .release .owner]⟩
    else
      ⟨none, { c with owner := .canceller flag false }, [.acquire .owner, .release .owner]⟩
  | .canceller flag raised =>
    if interrupt && !raised then
      ⟨none, { c with owner := .canceller flag true, interrupts := c.interrupts + 1 },
        [.acquire .owner, .log alreadyCancellingEvent, .raise flag, .release .owner]⟩
    else
      ⟨none, c, [.acquire .owner, .log alreadyCancellingEvent, .release .owner]⟩

/-- A **parked canceller looks again**: it stays parked while a canceller owns the call, and
goes on to settle the call as cancelled once the worker has left. -/
def resume (c : Call ω α) : Section ω α (Option (CallOutcome α)) :=
  match c.owner with
  | .canceller _ _ => ⟨none, c, [.acquire .owner, .release .owner]⟩
  | _ => ⟨some .cancelled, c, [.acquire .owner]⟩

end Call

end CallGate

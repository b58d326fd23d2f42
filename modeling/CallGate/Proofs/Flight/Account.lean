import CallGate.Proofs.Flight.Order

/-!
# Accounts of a Call

Five sections of a call log what they find (`Notice`): the claim that comes too late, the finish
that was displaced, the drop of a task nobody ran, and the two cancels that meet a worker or another
cancel. Which of them a call goes through is decided by the order of the sections, so the log
tells an auditor that order. What it tells is an `Account`.

`Chronicle` says which account is given of a list of actions; like `Decided` it knows of no locks
and no state. `Audited` says it event by event: when it is logged, and how often.

## Main results

* `Chronicle.audited`: what each event in the log of an account tells.
* `Chronicle.dropped_iff`, `Chronicle.tooLate_iff`, `Chronicle.discarded_iff`,
  `Chronicle.interrupted_iff`, `Chronicle.of_displacement`: what an account says of the actions.
-/

namespace CallGate

variable {ω α : Type}

/-! ### Who comes first -/

/-- A cancel. -/
def Action.isCancel : Action ω → Bool
  | cancel _ _ => true
  | _ => false

/-- An action is the **first of a kind** in a list, and other actions come after it. -/
def First (kind : Action ω → Bool) (actions : List (Action ω)) (a : Action ω)
    (after : List (Action ω)) : Prop :=
  ∃ before, actions = before ++ a :: after ∧ (∀ b ∈ before, kind b = false) ∧ kind a = true

/-- There is one first action of a kind. -/
theorem First.unique {kind : Action ω → Bool} {actions after₁ after₂ : List (Action ω)}
    {a₁ a₂ : Action ω} (h₁ : First kind actions a₁ after₁) (h₂ : First kind actions a₂ after₂) :
    a₁ = a₂ ∧ after₁ = after₂ := by
  obtain ⟨before₁, rfl, hbefore₁, ha₁⟩ := h₁
  obtain ⟨before₂, hactions, hbefore₂, ha₂⟩ := h₂
  exact (eq_of_first hactions hbefore₁ ha₁ hbefore₂ ha₂).2

/-- Where there is no action of a kind, none is the first. -/
theorem First.not_none {kind : Action ω → Bool} {actions after : List (Action ω)} {a : Action ω}
    (h : First kind actions a after) : ¬ ∀ b ∈ actions, kind b = false := by
  obtain ⟨before, rfl, -, ha⟩ := h
  intro hnone
  simp [hnone a (by simp)] at ha

/-- There is a first action of a kind, or none at all. -/
theorem none_or_first (kind : Action ω → Bool) (actions : List (Action ω)) :
    (∀ a ∈ actions, kind a = false) ∨ ∃ a after, First kind actions a after := by
  obtain hnone | ⟨before, a, after, hactions, hbefore, ha⟩ := eq_append_of_first kind actions
  · exact .inl hnone
  · exact .inr ⟨a, after, before, hactions, hbefore, ha⟩

/-- The task was **dropped** before anybody claimed or cancelled the call. -/
def Dropped (actions : List (Action ω)) : Prop :=
  ∃ after, First Action.contends actions .abandon after

/-- The task was run **too late**: a cancel had taken the call before any claim. -/
def TooLate (actions : List (Action ω)) : Prop :=
  ∃ byWorker interrupt after, First Action.contends actions (.cancel byWorker interrupt) after ∧
    ∃ fresh, .claim fresh ∈ after

/-- A cancel **displaced** the worker, which had claimed the call and not finished. It asked to
interrupt the worker or not, and other actions came after it. -/
def Displacement (actions : List (Action ω)) (interrupt : Bool) (after : List (Action ω)) : Prop :=
  ∃ flag later byWorker, First Action.contends actions (.claim flag) later ∧
    First Action.disputes later (.cancel byWorker interrupt) after

/-- One cancel displaces the worker. -/
theorem Displacement.unique {actions after₁ after₂ : List (Action ω)} {interrupt₁ interrupt₂ : Bool}
    (h₁ : Displacement actions interrupt₁ after₁) (h₂ : Displacement actions interrupt₂ after₂) :
    interrupt₁ = interrupt₂ ∧ after₁ = after₂ := by
  obtain ⟨flag₁, later₁, byWorker₁, hclaim₁, hcancel₁⟩ := h₁
  obtain ⟨flag₂, later₂, byWorker₂, hclaim₂, hcancel₂⟩ := h₂
  obtain ⟨-, rfl⟩ := hclaim₁.unique hclaim₂
  obtain ⟨hcancel, rfl⟩ := hcancel₁.unique hcancel₂
  exact ⟨(Action.cancel.inj hcancel).2, rfl⟩

/-- Where nobody contends for the call, nobody comes first. -/
theorem Uncontended.not_first {actions after : List (Action ω)} {a : Action ω}
    (h : Uncontended actions) : ¬ First Action.contends actions a after :=
  fun hfirst => hfirst.not_none h

/-- A task was dropped if that is what came first. -/
theorem First.dropped_iff {actions after : List (Action ω)} {a : Action ω}
    (h : First Action.contends actions a after) : Dropped actions ↔ a = .abandon := by
  constructor
  · rintro ⟨rest, hdrop⟩
    exact (h.unique hdrop).1
  · rintro rfl
    exact ⟨after, h⟩

/-- A task can only come too late if a cancel came first, and if it is run afterwards. -/
theorem First.of_tooLate {actions after : List (Action ω)} {a : Action ω}
    (h : First Action.contends actions a after) (hlate : TooLate actions) :
    a.isCancel = true ∧ ¬ Unclaimed after := by
  obtain ⟨byWorker, interrupt, rest, hcancel, fresh, hclaim⟩ := hlate
  obtain ⟨rfl, rfl⟩ := h.unique hcancel
  refine ⟨rfl, fun hnone => ?_⟩
  simpa [Action.isClaim] using hnone _ hclaim

/-- How many cancels **join** the one that displaced the worker: those before it finishes. -/
def joins (after : List (Action ω)) : Nat :=
  (after.takeWhile fun a => !a.isFinish).countP Action.isCancel

/-- Until the worker finishes, every cancel joins. -/
theorem joins_append {waiting : List (Action ω)} (h : Unfinished waiting)
    (more : List (Action ω)) :
    joins (waiting ++ more) = waiting.countP Action.isCancel + joins more := by
  have hwaiting : ∀ a ∈ waiting, (!a.isFinish) = true := fun a ha => by rw [h a ha, Bool.not_false]
  rw [joins, List.takeWhile_append_of_pos hwaiting, List.countP_append, joins]

/-! ### Accounts -/

/-- The **notices** that a call gives in the log of the client. -/
inductive Notice where
  /-- The executor dropped the task. -/
  | dropped
  /-- The task came too late. -/
  | late
  /-- The worker has finished, and was displaced before. -/
  | discarded
  /-- A cancel displaces the worker, and interrupts it. -/
  | interrupting
  /-- A cancel joins another one. -/
  | joined
deriving DecidableEq, Repr

/-- A notice **as it is logged**, but for the threads that the last three name. -/
def Notice.event : Notice → Log.Event
  | dropped => ⟨.warn, "modelgate::client", "executor dropped the call before it ran", []⟩
  | late => ⟨.debug, "modelgate::client", "call cancelled before dispatch", []⟩
  | discarded =>
    ⟨.debug, "modelgate::client", "discarding result of a call claimed by a canceller", []⟩
  | interrupting => ⟨.debug, "modelgate::client", "interrupting running call", []⟩
  | joined => ⟨.debug, "modelgate::client", "cancel already in progress", []⟩

/-- Notices are told apart in the log. -/
theorem Notice.event_inj {one other : Notice} : one.event = other.event ↔ one = other := by
  cases one <;> cases other <;> simp [event]

/-- The **account** that a log gives of a call. -/
inductive Account where
  /-- Nothing is said. -/
  | silent
  /-- The task was dropped. -/
  | dropped
  /-- The task was run too late. -/
  | late
  /-- A cancel displaced the worker: whether it asked to interrupt it, how many joined it before
  the worker finished, and whether the worker has finished. -/
  | displaced (interrupt : Bool) (joined : Nat) (finished : Bool)
deriving DecidableEq, Repr

/-- What a cancel logs that displaces the worker. -/
def opening (interrupt : Bool) : List Log.Event :=
  if interrupt then [Notice.interrupting.event] else []

/-- What a worker logs that was displaced. -/
def closing (finished : Bool) : List Log.Event :=
  if finished then [Notice.discarded.event] else []

namespace Account

/-- The **log** that gives an account, event by event. -/
def log : Account → List Log.Event
  | silent => []
  | dropped => [Notice.dropped.event]
  | late => [Notice.late.event]
  | displaced interrupt joined finished =>
    opening interrupt ++ List.replicate joined Notice.joined.event ++ closing finished

/-- How many cancels joined another one. -/
def joined : Account → Nat
  | displaced _ joined _ => joined
  | _ => 0

/-- Whether a worker was displaced that was to be interrupted. -/
def interrupted : Account → Bool
  | displaced interrupt _ _ => interrupt
  | _ => false

/-- Whether a worker was displaced that has finished. -/
def discarded : Account → Bool
  | displaced _ _ finished => finished
  | _ => false

variable (a : Account)

/-- How often a notice is given in the log of an account. -/
def times : Notice → Nat
  | .dropped => if a = dropped then 1 else 0
  | .late => if a = late then 1 else 0
  | .discarded => a.discarded.toNat
  | .interrupting => a.interrupted.toNat
  | .joined => a.joined

/-- A log **gives each notice** as often as its account says. -/
theorem count_event (notice : Notice) : a.log.count notice.event = a.times notice := by
  cases a with
  | silent => cases notice <;> rfl
  | dropped | late => cases notice <;> simp [log, times, discarded, interrupted, joined,
      Notice.event_inj]
  | displaced interrupt joined finished =>
      cases interrupt <;> cases finished <;> cases notice <;>
        simp [log, opening, closing, times, discarded, interrupted, Account.joined,
          List.count_replicate, Notice.event_inj]

/-- There are notices in a log, and nothing else. -/
theorem exists_notice {event : Log.Event} (h : event ∈ a.log) :
    ∃ notice : Notice, event = notice.event := by
  cases a <;> grind [log, opening, closing]

end Account

/-! ### The chronicle of a call -/

/-- The **chronicle** of a list of actions: the account of them that the log of the call gives. -/
inductive Chronicle : List (Action ω) → Account → Prop
  /-- Nobody has contended for the call. -/
  | untouched {actions : List (Action ω)} : Uncontended actions → Chronicle actions .silent
  /-- The task was dropped first. -/
  | dropped {actions after : List (Action ω)} :
      First Action.contends actions .abandon after → Chronicle actions .dropped
  /-- A cancel came first and the task has not been run since. -/
  | preempted {actions after : List (Action ω)} {byWorker interrupt : Bool} :
      First Action.contends actions (.cancel byWorker interrupt) after → Unclaimed after →
      Chronicle actions .silent
  /-- A cancel came first and the task was run all the same. -/
  | late {actions after : List (Action ω)} {byWorker interrupt : Bool} {fresh : Interrupt} :
      First Action.contends actions (.cancel byWorker interrupt) after → .claim fresh ∈ after →
      Chronicle actions .late
  /-- A worker has claimed the call, and nobody has disputed it. -/
  | undisputed {actions after : List (Action ω)} {flag : Interrupt} :
      First Action.contends actions (.claim flag) after → Undisputed after →
      Chronicle actions .silent
  /-- A worker claimed the call and finished before any cancel. -/
  | published {actions later after : List (Action ω)} {flag : Interrupt} {ending : Ending} :
      First Action.contends actions (.claim flag) later →
      First Action.disputes later (.finish ending) after → Chronicle actions .silent
  /-- A cancel has displaced the worker, which is still at work. -/
  | displaced {actions after : List (Action ω)} {interrupt : Bool} :
      Displacement actions interrupt after → Unfinished after →
      Chronicle actions (.displaced interrupt (joins after) false)
  /-- A cancel displaced the worker, which finished later. -/
  | discarded {actions after rest : List (Action ω)} {interrupt : Bool} {ending : Ending} :
      Displacement actions interrupt after → First Action.isFinish after (.finish ending) rest →
      Chronicle actions (.displaced interrupt (joins after) true)

namespace Chronicle

variable {actions : List (Action ω)} {account : Account}

/-- An account tells of a dropped task if the task was dropped. -/
theorem dropped_iff (h : Chronicle actions account) : Dropped actions ↔ account = .dropped := by
  cases h with
  | untouched hnone => simp [Dropped, hnone.not_first]
  | dropped hfirst => simp [hfirst.dropped_iff]
  | preempted hfirst | late hfirst | undisputed hfirst | published hfirst =>
      simp [hfirst.dropped_iff]
  | displaced hdisplaced | discarded hdisplaced =>
      obtain ⟨flag, later, byWorker, hfirst, -⟩ := hdisplaced
      simp [hfirst.dropped_iff]

/-- An account tells of a task that came too late if it did. -/
theorem tooLate_iff (h : Chronicle actions account) : TooLate actions ↔ account = .late := by
  cases h with
  | untouched hnone => simp [TooLate, hnone.not_first]
  | dropped hfirst | undisputed hfirst | published hfirst =>
      have hnever : ¬ TooLate actions := fun hlate => by cases (hfirst.of_tooLate hlate).1
      simp [hnever]
  | preempted hfirst hunclaimed =>
      have hnever : ¬ TooLate actions := fun hlate => (hfirst.of_tooLate hlate).2 hunclaimed
      simp [hnever]
  | late hfirst hclaim => exact ⟨fun _ => rfl, fun _ => ⟨_, _, _, hfirst, _, hclaim⟩⟩
  | displaced hdisplaced | discarded hdisplaced =>
      obtain ⟨flag, later, byWorker, hfirst, -⟩ := hdisplaced
      have hnever : ¬ TooLate actions := fun hlate => by cases (hfirst.of_tooLate hlate).1
      simp [hnever]

/-- An account tells of the cancel that displaced the worker. -/
theorem of_displacement {interrupt : Bool} {after : List (Action ω)}
    (h : Chronicle actions account) (hdisplaced : Displacement actions interrupt after) :
    ∃ finished, account = .displaced interrupt (joins after) finished ∧
      (finished = true ↔ ¬ Unfinished after) := by
  obtain ⟨flag, later, byWorker, hclaim, hcancel⟩ := id hdisplaced
  cases h with
  | untouched hnone => exact absurd hclaim hnone.not_first
  | dropped hfirst | preempted hfirst | late hfirst => cases (hclaim.unique hfirst).1
  | undisputed hfirst hnone =>
      obtain ⟨-, rfl⟩ := hclaim.unique hfirst
      exact absurd hnone hcancel.not_none
  | published hfirst hfinish =>
      obtain ⟨-, rfl⟩ := hclaim.unique hfirst
      cases (hcancel.unique hfinish).1
  | displaced hother hunfinished =>
      obtain ⟨rfl, rfl⟩ := hdisplaced.unique hother
      exact ⟨false, rfl, by simp [hunfinished]⟩
  | discarded hother hfinish =>
      obtain ⟨rfl, rfl⟩ := hdisplaced.unique hother
      exact ⟨true, rfl, fun _ => hfinish.not_none, fun _ => rfl⟩

/-- Where an account tells of a cancel that displaced the worker, there is one. -/
theorem exists_displacement {interrupt finished : Bool} {joined : Nat}
    (h : Chronicle actions (.displaced interrupt joined finished)) :
    ∃ after, Displacement actions interrupt after := by
  cases h with
  | displaced hdisplaced => exact ⟨_, hdisplaced⟩
  | discarded hdisplaced => exact ⟨_, hdisplaced⟩

/-- An account tells of a discarded result if a displaced worker has finished. -/
theorem discarded_iff (h : Chronicle actions account) :
    (∃ interrupt after, Displacement actions interrupt after ∧ ¬ Unfinished after) ↔
      account.discarded = true := by
  constructor
  · rintro ⟨interrupt, after, hdisplaced, hfinished⟩
    obtain ⟨finished, rfl, hiff⟩ := h.of_displacement hdisplaced
    exact hiff.mpr hfinished
  · intro hdiscarded
    cases account with
    | displaced interrupt joined finished =>
        obtain ⟨after, hdisplaced⟩ := h.exists_displacement
        obtain ⟨_, heq, hiff⟩ := h.of_displacement hdisplaced
        obtain ⟨-, -, rfl⟩ := Account.displaced.inj heq
        exact ⟨interrupt, after, hdisplaced, hiff.mp hdiscarded⟩
    | _ => cases hdiscarded

/-- An account tells of an interruption if the cancel that displaced the worker asked for it. -/
theorem interrupted_iff (h : Chronicle actions account) :
    (∃ after, Displacement actions true after) ↔ account.interrupted = true := by
  constructor
  · rintro ⟨after, hdisplaced⟩
    obtain ⟨finished, rfl, -⟩ := h.of_displacement hdisplaced
    rfl
  · intro hinterrupted
    cases account with
    | displaced interrupt joined finished =>
        obtain rfl : interrupt = true := hinterrupted
        exact h.exists_displacement
    | _ => cases hinterrupted

end Chronicle

/-! ### What an auditor reads -/

/-- A log tells **once** of something that is the case, and not of something that is not. -/
def TellsOnce (log : List Log.Event) (event : Log.Event) (p : Prop) : Prop :=
  (p → log.count event = 1) ∧ (¬ p → log.count event = 0)

/-- What a log tells an **auditor** of the actions on a call. -/
structure Audited (actions : List (Action ω)) (log : List Log.Event) : Prop where
  /-- The warning that the task was dropped stands for a drop of the unclaimed call. -/
  dropped : TellsOnce log Notice.dropped.event (Dropped actions)
  /-- A task says that it came too late once a cancel has taken the unclaimed call. -/
  late : TellsOnce log Notice.late.event (TooLate actions)
  /-- A result is discarded of a worker that finishes after a cancel has displaced it. -/
  discarded : TellsOnce log Notice.discarded.event
    (∃ interrupt after, Displacement actions interrupt after ∧ ¬ Unfinished after)
  /-- Of these three, one event is logged at most. -/
  exclusive : log.count Notice.dropped.event + log.count Notice.late.event +
    log.count Notice.discarded.event ≤ 1
  /-- An interruption is that of the cancel that displaced the worker. -/
  interrupting : TellsOnce log Notice.interrupting.event (∃ after, Displacement actions true after)
  /-- Every cancel that joins one that waits for the worker says so. -/
  joined : ∀ interrupt after, Displacement actions interrupt after →
    log.count Notice.joined.event = joins after
  /-- Nobody says so where no cancel waits for the worker. -/
  alone : (∀ interrupt after, ¬ Displacement actions interrupt after) →
    log.count Notice.joined.event = 0
  /-- Nothing else is logged. -/
  complete : ∀ event ∈ log, ∃ notice : Notice, event = notice.event

/-- What the order of the actions on a call says of its owner and of its worker, so that an auditor
knows **where** a flight is. -/
structure Located (actions : List (Action ω)) (f : Flight ω α) : Prop where
  /-- The call is unclaimed as long as nobody contends for it. -/
  unclaimed : f.call.owner = .unclaimed ↔ Uncontended actions
  /-- Cancels wait for the worker from when one displaces it until it finishes. -/
  waiting : (∃ flag raised, f.call.owner = .canceller flag raised) ↔
    ∃ interrupt after, Displacement actions interrupt after ∧ Unfinished after
  /-- A displaced worker that is no longer at work has finished. -/
  finished : f.task.flag? = none →
    ∀ interrupt after, Displacement actions interrupt after → ¬ Unfinished after

/-- The log of an account is what an auditor may rely on. -/
theorem Chronicle.audited {actions : List (Action ω)} {account : Account}
    (h : Chronicle actions account) : Audited actions account.log where
  dropped := by simp [TellsOnce, account.count_event, Account.times, h.dropped_iff]
  late := by simp [TellsOnce, account.count_event, Account.times, h.tooLate_iff]
  discarded := by
    rw [TellsOnce, account.count_event, Account.times, h.discarded_iff]
    cases account.discarded <;> simp
  exclusive := by
    simp only [account.count_event, Account.times]
    cases account with
    | displaced interrupt joined finished => simp [Account.discarded, Bool.toNat_le]
    | _ => simp [Account.discarded]
  interrupting := by
    rw [TellsOnce, account.count_event, Account.times, h.interrupted_iff]
    cases account.interrupted <;> simp
  joined := by
    intro interrupt after hdisplaced
    obtain ⟨finished, rfl, -⟩ := h.of_displacement hdisplaced
    rw [Account.count_event, Account.times, Account.joined]
  alone := by
    intro hnone
    rw [account.count_event, Account.times]
    cases account with
    | displaced interrupt joined finished =>
        obtain ⟨after, hdisplaced⟩ := h.exists_displacement
        exact absurd hdisplaced (hnone interrupt after)
    | _ => rfl
  complete := fun _ hmem => account.exists_notice hmem

end CallGate

import CallGate.Proofs.Flight.Account
import CallGate.Proofs.Flight.Standing

/-!
# The Log of a Call

What a run of a call logs is the account of its actions (`Chronicle`). Along the course of the
call every action logs what it does to the course (`Course.entries`), and a step of the flight
logs that and nothing else.

The task goes away at the end of every course. Nothing is logged then but for the task of a call
that nobody has claimed: the task is used up once, so no second claim and no second drop can come.

## Main results

* `Stands.logs_eq`: a step logs what its action does to the course.
* `Flight.chronicle_of_run?`: what a run logs is the account of its actions.
* `Flight.located_of_run?`: the order of the actions says who owns the call.
-/

namespace CallGate

variable {ω α : Type}

/-! ### What is logged -/

/-- The event that an effect logs. -/
def Effect.logged? : Effect ω → Option Log.Event
  | log event => some event
  | _ => none

/-- What was **logged**, in order. -/
def logs (effects : List (Effect ω)) : List Log.Event := effects.filterMap Effect.logged?

/-- What was logged in two parts. -/
theorem logs_append (effects new : List (Effect ω)) :
    logs (effects ++ new) = logs effects ++ logs new :=
  List.filterMap_append

/-! ### The log along a course -/

namespace Course

variable {convert : Response → α}

/-- What is logged when an action takes a course on. -/
def entries : Course α → Action ω → List Log.Event
  | .untouched, .abandon => [Notice.dropped.event]
  | .claimed _, .cancel _ interrupt => opening interrupt
  | .displaced _ _, .cancel _ _ => [Notice.joined.event]
  | .displaced _ _, .finish _ => [Notice.discarded.event]
  | .ended _ _, .claim _ => [Notice.late.event]
  | _, _ => []

/-- What is logged along some actions, from a course on. -/
def chronicle (convert : Response → α) : Course α → List (Action ω) → List Log.Event
  | _, [] => []
  | course, a :: rest => course.entries a ++ chronicle convert (course.next convert a) rest

/-- What is logged along actions one after the other. -/
theorem chronicle_append (course : Course α) (actions more : List (Action ω)) :
    chronicle convert course (actions ++ more) =
      chronicle convert course actions ++
        chronicle convert (actions.foldl (next convert) course) more := by
  induction actions generalizing course with
  | nil => rfl
  | cons a rest ih =>
      rw [List.cons_append, chronicle, ih, chronicle, List.append_assoc, List.foldl_cons]

/-- Nothing is logged by actions that leave a course as it is and say nothing on it. -/
theorem chronicle_eq_nil {course : Course α} {actions : List (Action ω)}
    (h : ∀ a ∈ actions, course.next convert a = course ∧ course.entries a = []) :
    chronicle convert course actions = [] := by
  induction actions with
  | nil => rfl
  | cons a rest ih =>
      obtain ⟨⟨hnext, hentries⟩, hrest⟩ := List.forall_mem_cons.mp h
      rw [chronicle, hnext, hentries, ih hrest, List.nil_append]

/-- Nothing is logged while nobody contends for the call. -/
theorem chronicle_untouched {actions : List (Action ω)} (h : Uncontended actions) :
    chronicle convert .untouched actions = [] := by
  refine chronicle_eq_nil fun a ha => ?_
  have hquiet := h a ha
  cases a with
  | claim _ | abandon | cancel _ _ => simp [Action.contends] at hquiet
  | _ => exact ⟨rfl, rfl⟩

/-- Nothing is logged while nobody disputes a claimed call. -/
theorem chronicle_claimed {flag : Interrupt} {actions : List (Action ω)} (h : Undisputed actions) :
    chronicle convert (.claimed flag) actions = [] := by
  refine chronicle_eq_nil fun a ha => ?_
  have hquiet := h a ha
  cases a with
  | finish _ | cancel _ _ => simp [Action.disputes] at hquiet
  | _ => exact ⟨rfl, rfl⟩

/-- Nothing is logged after the end while nobody claims the call. -/
theorem chronicle_ended {outcome : CallOutcome α} {worker : Option (Interrupt × Bool)}
    {actions : List (Action ω)} (h : Unclaimed actions) :
    chronicle convert (.ended outcome worker) actions = [] := by
  refine chronicle_eq_nil fun a ha => ?_
  have hquiet := h a ha
  cases a with
  | claim _ => simp [Action.isClaim] at hquiet
  | _ => exact ⟨rfl, rfl⟩

/-- Until the displaced worker finishes, every cancel says that it joins. -/
theorem chronicle_displaced {flag : Interrupt} (asked : Bool) {waiting : List (Action ω)}
    (h : Unfinished waiting) :
    chronicle convert (.displaced flag asked) waiting =
      List.replicate (waiting.countP Action.isCancel) Notice.joined.event := by
  induction waiting generalizing asked with
  | nil => rfl
  | cons a rest ih =>
      obtain ⟨ha, hrest⟩ := List.forall_mem_cons.mp h
      cases a with
      | finish ending => simp [Action.isFinish] at ha
      | cancel byWorker interrupt =>
          rw [chronicle, next, ih _ hrest, List.countP_cons_of_pos rfl, List.replicate_succ]
          rfl
      | _ => exact ih asked hrest

/-- Until the displaced worker finishes, a displaced course stays displaced. -/
theorem foldl_displaced_of_unfinished {flag : Interrupt} (asked : Bool)
    {waiting : List (Action ω)} (h : Unfinished waiting) :
    waiting.foldl (next convert) (.displaced flag asked) =
      .displaced flag (asked || waiting.any Action.asks) := by
  induction waiting generalizing asked with
  | nil => simp
  | cons a rest ih =>
      obtain ⟨ha, hrest⟩ := List.forall_mem_cons.mp h
      rw [List.foldl_cons]
      cases a with
      | finish ending => simp [Action.isFinish] at ha
      | cancel byWorker interrupt => rw [next, ih _ hrest, List.any_cons, Bool.or_assoc]; rfl
      | _ => exact ih asked hrest

/-- The chronicle of a call whose worker was displaced. -/
theorem chronicle_of_displacement {actions after : List (Action ω)} {flag : Interrupt}
    {interrupt : Bool} (h : Displacement actions interrupt after) (hafter : Unclaimed after) :
    ∃ account, Chronicle actions account ∧
      opening interrupt ++ chronicle convert (.displaced flag interrupt) after = account.log := by
  obtain hnone | ⟨a, rest, hfirst⟩ := none_or_first Action.isFinish after
  · have hjoins : joins after = after.countP Action.isCancel := by
      simpa [joins] using joins_append hnone []
    refine ⟨_, .displaced h hnone, ?_⟩
    rw [chronicle_displaced interrupt hnone, Account.log, hjoins, closing, if_neg (by simp),
      List.append_nil]
  obtain ⟨waiting, rfl, hwaiting, ha⟩ := id hfirst
  cases a with
  | finish ending =>
      have hrest : Unclaimed rest := fun b hb => hafter b (by simp [hb])
      have hjoins : joins (waiting ++ .finish ending :: rest) = waiting.countP Action.isCancel :=
        joins_append hwaiting _
      refine ⟨_, .discarded h hfirst, ?_⟩
      rw [chronicle_append, chronicle_displaced interrupt hwaiting,
        foldl_displaced_of_unfinished interrupt hwaiting, chronicle, next, chronicle_ended hrest,
        Account.log, hjoins, closing, if_pos rfl, List.append_assoc]
      rfl
  | _ => simp [Action.isFinish] at ha

/-- The chronicle of a call that a worker has claimed. -/
theorem chronicle_of_claim {actions after : List (Action ω)} {flag : Interrupt}
    (h : First Action.contends actions (.claim flag) after) (hafter : Unclaimed after) :
    ∃ account, Chronicle actions account ∧
      chronicle convert (.claimed flag) after = account.log := by
  obtain hnone | ⟨a, rest, hfirst⟩ := none_or_first Action.disputes after
  · exact ⟨_, .undisputed h hnone, chronicle_claimed hnone⟩
  obtain ⟨between, rfl, hbetween, ha⟩ := id hfirst
  have hrest : Unclaimed rest := fun b hb => hafter b (by simp [hb])
  rw [chronicle_append, chronicle_claimed hbetween, foldl_claimed hbetween, chronicle]
  cases a with
  | finish ending =>
      rw [next, chronicle_ended hrest]
      exact ⟨_, .published h hfirst, rfl⟩
  | cancel byWorker interrupt =>
      exact chronicle_of_displacement ⟨flag, _, byWorker, h, hfirst⟩ hrest
  | _ => simp [Action.disputes] at ha

/-- While a displaced worker has not finished, the course is displaced. -/
theorem displaced_of_displacement {actions after : List (Action ω)} {interrupt : Bool}
    (h : Displacement actions interrupt after) (hafter : Unfinished after) :
    ∃ flag asked, ofActions convert actions = .displaced flag asked := by
  obtain ⟨flag, _, byWorker, ⟨before, rfl, hbefore, -⟩, between, rfl, hbetween, -⟩ := h
  refine ⟨flag, interrupt || after.any Action.asks, ?_⟩
  rw [ofActions, List.foldl_append, foldl_untouched hbefore, List.foldl_cons, next,
    List.foldl_append, foldl_claimed hbetween, List.foldl_cons, next]
  exact foldl_displaced_of_unfinished interrupt hafter

/-- A displaced course stays displaced as long as the worker has **not finished**. -/
theorem unfinished_of_foldl_displaced {after : List (Action ω)} {flag last : Interrupt}
    {interrupt asked : Bool}
    (h : after.foldl (next convert) (.displaced flag interrupt) = .displaced last asked) :
    Unfinished after := by
  obtain hnone | ⟨a, rest, waiting, rfl, hwaiting, ha⟩ := none_or_first Action.isFinish after
  · exact hnone
  rw [List.foldl_append, foldl_displaced_of_unfinished interrupt hwaiting, List.foldl_cons] at h
  cases a with
  | finish ending =>
      rw [next, foldl_ended] at h
      cases h
  | _ => simp [Action.isFinish] at ha

/-- A claimed course comes to be displaced **by a cancel**. -/
theorem first_cancel_of_foldl_claimed {later : List (Action ω)} {flag last : Interrupt}
    {asked : Bool}
    (h : later.foldl (next convert) (.claimed flag) = .displaced last asked) :
    ∃ byWorker interrupt after, First Action.disputes later (.cancel byWorker interrupt) after ∧
      Unfinished after := by
  obtain hnone | ⟨a, after, hdispute⟩ := none_or_first Action.disputes later
  · rw [foldl_claimed hnone] at h
    cases h
  obtain ⟨between, rfl, hbetween, ha⟩ := id hdispute
  rw [List.foldl_append, foldl_claimed hbetween, List.foldl_cons] at h
  cases a with
  | finish ending =>
      rw [next, foldl_ended] at h
      cases h
  | cancel byWorker interrupt =>
      exact ⟨byWorker, interrupt, after, hdispute, unfinished_of_foldl_displaced h⟩
  | _ => simp [Action.disputes] at ha

/-- On a displaced course the worker has not finished. -/
theorem displacement_of_displaced {actions : List (Action ω)} {flag : Interrupt} {asked : Bool}
    (h : ofActions convert actions = .displaced flag asked) :
    ∃ interrupt after, Displacement actions interrupt after ∧ Unfinished after := by
  obtain hnone | ⟨a, later, hfirst⟩ := none_or_first Action.contends actions
  · rw [ofActions, foldl_untouched hnone] at h
    cases h
  obtain ⟨before, rfl, hbefore, ha⟩ := id hfirst
  rw [ofActions, List.foldl_append, foldl_untouched hbefore, List.foldl_cons] at h
  cases a with
  | abandon | cancel _ _ =>
      rw [next, foldl_ended] at h
      cases h
  | claim claimed =>
      obtain ⟨byWorker, interrupt, after, hcancel, hunfinished⟩ := first_cancel_of_foldl_claimed h
      exact ⟨interrupt, after, ⟨claimed, later, byWorker, hfirst, hcancel⟩, hunfinished⟩
  | _ => simp [Action.contends] at ha

/-- No course becomes untouched again. -/
theorem foldl_ne_untouched {course : Course α} (h : course ≠ .untouched)
    (actions : List (Action ω)) : actions.foldl (next convert) course ≠ .untouched := by
  induction actions generalizing course with
  | nil => exact h
  | cons a rest ih =>
      refine ih ?_
      cases course with
      | untouched => exact absurd rfl h
      | _ => cases a <;> simp [next]

/-- A course is untouched as long as nobody contends for the call. -/
theorem ofActions_eq_untouched_iff {actions : List (Action ω)} :
    ofActions convert actions = .untouched ↔ Uncontended actions := by
  refine ⟨fun h => ?_, foldl_untouched⟩
  obtain hnone | ⟨a, after, before, rfl, hbefore, ha⟩ := none_or_first Action.contends actions
  · exact hnone
  have hnext : Course.next convert .untouched a ≠ .untouched := by
    cases a with
    | claim _ | abandon | cancel _ _ => simp [next]
    | _ => simp [Action.contends] at ha
  rw [ofActions, List.foldl_append, foldl_untouched hbefore, List.foldl_cons] at h
  exact absurd h (foldl_ne_untouched hnext after)

end Course

namespace Flight

variable {f g : Flight ω α} {course : Course α} {effects new : List (Effect ω)} {a : Action ω}
  {actions : List (Action ω)}

/-- Nobody owns a call exactly on its untouched course. -/
theorem Stands.owner_eq_unclaimed_iff (h : Stands course effects f) :
    f.call.owner = .unclaimed ↔ course = .untouched := by
  cases course with
  | untouched => exact ⟨fun _ => rfl, fun _ => h.owner⟩
  | claimed flag => simp [h.owner]
  | displaced flag asked => simp [h.owner]
  | ended outcome worker =>
      obtain howner | ⟨⟨flag, howner⟩, -⟩ := Fixed.owner h <;> simp [howner]

/-- A canceller owns a call only on its displaced course. -/
theorem Stands.displaced_of_canceller (h : Stands course effects f)
    (howner : ∃ flag raised, f.call.owner = .canceller flag raised) :
    ∃ flag asked, course = .displaced flag asked := by
  obtain ⟨flag, raised, howner⟩ := howner
  cases course with
  | untouched => simp [h.owner] at howner
  | claimed flag => simp [h.owner] at howner
  | displaced flag asked => exact ⟨flag, asked, rfl⟩
  | ended outcome worker =>
      obtain hvacated | ⟨⟨_, hworker⟩, -⟩ := Fixed.owner h <;> simp_all

/-- A call that somebody has owned and that no worker runs has ended. -/
theorem Stands.ended_of_idle (h : Stands course effects f) (howner : f.call.owner ≠ .unclaimed)
    (hidle : f.task.flag? = none) : ∃ outcome worker, course = .ended outcome worker := by
  cases course with
  | untouched => exact absurd h.owner howner
  | claimed flag => simp [h.working] at hidle
  | displaced flag asked => simp [h.working] at hidle
  | ended outcome worker => exact ⟨outcome, worker, rfl⟩

variable [BEq ω] {convert : Response → α}

/-- **One step** logs what its action does to the course. -/
theorem Stands.logs_eq (h : Stands course effects f) (hstep : Step convert f a g new) :
    logs new = course.entries a := by
  cases hstep with
  | claimed _ _ howner | rejected _ _ howner =>
      obtain rfl := h.owner_eq_unclaimed_iff.mp howner
      rfl
  | refused _ htask howner =>
      obtain ⟨outcome, worker, rfl⟩ := h.ended_of_idle howner (by rw [htask, TaskPhase.flag?])
      rfl
  | finished _ htask _ howner =>
      cases course with
      | untouched => simp [h.queued] at htask
      | claimed flag => rfl
      | displaced flag asked => simp [h.owner] at howner
      | ended outcome worker =>
          have hidle := h.idle
          simp [htask, TaskPhase.flag?] at hidle
  | discarded _ htask _ howner =>
      cases course with
      | untouched => simp [h.queued] at htask
      | claimed flag => exact absurd h.owner (howner flag)
      | displaced flag asked => rfl
      | ended outcome worker =>
          have hidle := h.idle
          simp [htask, TaskPhase.flag?] at hidle
  | departed _ _ howner =>
      cases course with
      | untouched => exact absurd h.owner howner
      | _ => rfl
  | preempted _ _ howner =>
      cases course with
      | untouched | ended _ _ => rfl
      | claimed flag => simp [h.owner] at howner
      | displaced flag asked => simp [h.owner] at howner
  | @displacing _ interrupt _ hfree _ howner =>
      cases course with
      | untouched => simp [h.owner] at howner
      | claimed flag => cases interrupt <;> rfl
      | displaced flag asked => simp [h.owner] at howner
      | ended outcome worker => simp [Fixed.vacated h hfree] at howner
  | @joined _ interrupt raised _ hfree _ howner =>
      cases course with
      | untouched => simp [h.owner] at howner
      | claimed flag => simp [h.owner] at howner
      | displaced flag asked => cases interrupt <;> cases raised <;> rfl
      | ended outcome worker => simp [Fixed.vacated h hfree] at howner
  | _ => cases course <;> rfl

/-- A run logs what its actions say along the course. -/
theorem Stands.logs_of_run? (h : Stands course effects f)
    (hrun : f.run? convert actions = some (g, new)) :
    logs new = Course.chronicle convert course actions := by
  rw [run?_eq_interleaving] at hrun
  induction actions generalizing f course effects new with
  | nil =>
      obtain ⟨-, rfl⟩ := Interleaving.run?_nil.mp hrun
      rfl
  | cons a rest ih =>
      obtain ⟨next, first, later, ha, hrest, rfl⟩ := Interleaving.run?_cons.mp hrun
      have hstep := step_of_step? ha
      rw [logs_append, h.logs_eq hstep, ih (h.step hstep) hrest, Course.chronicle]

/-! ### The task is used up once -/

/-- A task that was run or dropped is not queued again. -/
theorem Step.task_ne_queued (hstep : Step convert f a g new)
    (h : f.task ≠ .queued ∨ a.isClaim = true ∨ a = .abandon) : g.task ≠ .queued := by
  cases hstep with
  | claimed | refused | invoked | finished | discarded | rejected | departed => simp
  | _ => simpa [Action.isClaim] using h

/-- A task that is not queued is not claimed. -/
theorem unclaimed_of_run? (h : f.task ≠ .queued) (hrun : f.run? convert actions = some (g, new)) :
    Unclaimed actions := by
  rw [run?_eq_interleaving] at hrun
  induction actions generalizing f new with
  | nil => exact List.forall_mem_nil _
  | cons a rest ih =>
      obtain ⟨next, first, later, ha, hrest, -⟩ := Interleaving.run?_cons.mp hrun
      have hstep := step_of_step? ha
      have hrest := ih (hstep.task_ne_queued (.inl h)) hrest
      refine List.forall_mem_cons.mpr ⟨?_, hrest⟩
      cases hstep with
      | claimed _ hqueued | refused _ hqueued => exact absurd hqueued h
      | _ => rfl

/-- After the task was run or dropped, nobody claims the call. -/
theorem unclaimed_after_of_run? {before after : List (Action ω)}
    (hrun : f.run? convert (before ++ a :: after) = some (g, new))
    (ha : a.isClaim = true ∨ a = .abandon) : Unclaimed after := by
  rw [run?_eq_interleaving] at hrun
  obtain ⟨middle, _, _, -, hrest, -⟩ := Interleaving.run?_append.mp hrun
  obtain ⟨next, _, _, hstep, hafter, -⟩ := Interleaving.run?_cons.mp hrest
  rw [← run?_eq_interleaving] at hafter
  exact unclaimed_of_run? ((step_of_step? hstep).task_ne_queued (.inr ha)) hafter

/-! ### The chronicle of a run -/

/-- **What a run logs is the chronicle** of its actions. -/
theorem chronicle_of_run? (hrun : ({} : Flight ω α).run? convert actions = some (f, effects)) :
    ∃ account, Chronicle actions account ∧ logs effects = account.log := by
  have hnew : Stands .untouched ([] : List (Effect ω)) ({} : Flight ω α) :=
    Untouched.mk rfl rfl rfl rfl rfl rfl ⟨rfl, rfl⟩
  rw [hnew.logs_of_run? hrun]
  obtain hnone | ⟨a, after, hfirst⟩ := none_or_first Action.contends actions
  · exact ⟨_, .untouched hnone, Course.chronicle_untouched hnone⟩
  obtain ⟨before, rfl, hbefore, ha⟩ := id hfirst
  rw [Course.chronicle_append, Course.chronicle_untouched hbefore, List.nil_append,
    Course.foldl_untouched hbefore, Course.chronicle]
  cases a with
  | abandon =>
      have hafter := unclaimed_after_of_run? hrun (.inr rfl)
      rw [Course.next, Course.chronicle_ended hafter]
      exact ⟨_, .dropped hfirst, rfl⟩
  | cancel byWorker interrupt =>
      rw [Course.next]
      obtain hnone | ⟨c, rest, between, rfl, hbetween, hc⟩ := none_or_first Action.isClaim after
      · rw [Course.chronicle_ended hnone]
        exact ⟨_, .preempted hfirst hnone, rfl⟩
      cases c with
      | claim fresh =>
          rw [← List.cons_append, ← List.append_assoc] at hrun
          have hrest := unclaimed_after_of_run? hrun (.inl rfl)
          have hmem : .claim fresh ∈ between ++ .claim fresh :: rest := by simp
          rw [Course.chronicle_append, Course.chronicle_ended hbetween, Course.foldl_ended,
            Course.chronicle, Course.next, Course.chronicle_ended hrest]
          · exact ⟨_, .late hfirst hmem, rfl⟩
          all_goals simp
      | _ => simp [Action.isClaim] at hc
  | claim flag => exact Course.chronicle_of_claim hfirst (unclaimed_after_of_run? hrun (.inl rfl))
  | _ => simp [Action.contends] at ha

/-- The order of a run's actions says where its flight is. -/
theorem located_of_run? (hrun : ({} : Flight ω α).run? convert actions = some (f, effects)) :
    Located actions f := by
  have hstands := stands_of_run? hrun
  refine ⟨?_, ⟨fun howner => ?_, fun hwaiting => ?_⟩, ?_⟩
  · rw [hstands.owner_eq_unclaimed_iff, Course.ofActions_eq_untouched_iff]
  · obtain ⟨flag, raised, hcourse⟩ := hstands.displaced_of_canceller howner
    exact Course.displacement_of_displaced hcourse
  · obtain ⟨interrupt, after, hdisplaced, hunfinished⟩ := hwaiting
    obtain ⟨flag, asked, hcourse⟩ : ∃ flag asked,
        Course.ofActions convert actions = .displaced flag asked :=
      Course.displaced_of_displacement hdisplaced hunfinished
    rw [hcourse] at hstands
    exact ⟨flag, asked, hstands.owner⟩
  · intro hidle interrupt after hdisplaced hunfinished
    obtain ⟨flag, asked, hcourse⟩ : ∃ flag asked,
        Course.ofActions convert actions = .displaced flag asked :=
      Course.displaced_of_displacement hdisplaced hunfinished
    rw [hcourse] at hstands
    have hworking : f.task.flag? = some flag := hstands.working
    simp [hworking] at hidle

end Flight

end CallGate

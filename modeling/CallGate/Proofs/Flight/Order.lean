import CallGate.Call.Flight

/-!
# The Order of a Call's Sections

The sections of a call's owner contend for the call, and the order in which they take the
owner lock fixes how the call ends. This module says so without any state: `Decided` reads
the outcome off a list of actions, together with the flags under which the controller is
invoked, and `Interrupted` reads off whether the worker is interrupted. Nothing here knows of
locks, slots or parked cancels.

* The first claim, cancel or drop of the task decides over the unclaimed call.
* After a claim, the first cancel or finish decides: a cancel displaces the worker, a finish
  publishes what the controller came to (`Verdict`).
* The worker is interrupted by the first cancel that asks for it between claim and finish.

`Course` is the same as an automaton, which takes the actions one by one; this is the form in
which an induction over a run can use it.

## Main results

* `decided_iff_ending?`: the relation and the automaton agree on outcomes.
* `Decided.unique`: a list of actions decides at most one outcome.
* `interrupted_iff_mem_raised`: they agree on the interruption of the worker.
-/

namespace CallGate

variable {ω α : Type}

/-! ### What a controller's run comes to -/

/-- The document of a response is an object that **reports** its operation as cancelled: the
text under `outcome` is `cancelled`. -/
def Response.ReportsCancellation (r : Response) : Prop :=
  ∃ members, r.node = .object members ∧
    (Json.object members).member? "outcome" = some (.string "cancelled")

/-- A name is that of the cancelled outcome exactly when it is the word for it. -/
theorem Outcome.ofName?_eq_cancelled_iff {name : String} :
    Outcome.ofName? name = some .cancelled ↔ name = "cancelled" := by
  constructor
  · intro h
    unfold Outcome.ofName? at h
    split at h <;> simp_all
  · rintro rfl
    rfl

/-- The test that a worker makes on a response is the test on its document. -/
theorem Response.isCancelled_iff {r : Response} :
    r.isCancelled = true ↔ r.ReportsCancellation := by
  have hmember : r.isCancelled = true ↔
      r.node.member? "outcome" = some (.string "cancelled") := by
    simp only [isCancelled, outcome?, outcomeKey, beq_iff_eq, Option.bind_eq_some_iff,
      Outcome.ofName?_eq_cancelled_iff]
    constructor
    · rintro ⟨_, ⟨node, hnode, htext⟩, rfl⟩
      cases node with
      | string s => rw [hnode, ← Option.some.inj htext]
      | _ => simp [Json.text?] at htext
    · intro h
      exact ⟨"cancelled", ⟨_, h, rfl⟩, rfl⟩
  rw [hmember]
  constructor
  · intro h
    cases hnode : r.node with
    | object members => exact ⟨members, hnode, by rw [← hnode, h]⟩
    | _ => simp [hnode, Json.member?] at h
  · rintro ⟨members, hnode, h⟩
    rw [hnode, h]

/-- The **verdict** on a controller's run: the outcome of a call whose worker may publish how
the run ended. -/
inductive Verdict (convert : Response → α) : Ending → CallOutcome α → Prop
  | reported {response : Response} : response.ReportsCancellation →
      Verdict convert (.returned response) .cancelled
  | completed {response : Response} : ¬ response.ReportsCancellation →
      Verdict convert (.returned response) (.completed (convert response))
  | failed (fault : Fault) : Verdict convert (.failed fault) (.failed fault)
  | panicked (panic : Panic) :
      Verdict convert (.panicked panic) (.failed (.execution "panic" panic.message))

/-- The worker computes the verdict. -/
theorem verdict_iff_outcomeOf {convert : Response → α} {ending : Ending}
    {outcome : CallOutcome α} :
    Verdict convert ending outcome ↔ Call.outcomeOf convert ending.result = outcome := by
  constructor
  · intro h
    cases h with
    | reported hr => simp [Ending.result, Call.outcomeOf, Response.isCancelled_iff.mpr hr]
    | completed hr =>
        simp [Ending.result, Call.outcomeOf, mt Response.isCancelled_iff.mp hr]
    | failed fault => rfl
    | panicked panic => rfl
  · rintro rfl
    cases ending with
    | returned response =>
        by_cases hr : response.ReportsCancellation
        · rw [Ending.result, Call.outcomeOf, if_pos (Response.isCancelled_iff.mpr hr)]
          exact .reported hr
        · rw [Ending.result, Call.outcomeOf, if_neg (mt Response.isCancelled_iff.mp hr)]
          exact .completed hr
    | failed fault => exact .failed fault
    | panicked panic => exact .panicked panic

/-! ### Actions that decide -/

namespace Action

/-- The actions that **contend** for an unclaimed call. -/
def contends : Action ω → Bool
  | claim _ | abandon | cancel _ _ => true
  | _ => false

/-- The actions that **dispute** a claimed call. -/
def disputes : Action ω → Bool
  | finish _ | cancel _ _ => true
  | _ => false

/-- The worker's claim. -/
def isClaim : Action ω → Bool
  | claim _ => true
  | _ => false

/-- The worker's finish. -/
def isFinish : Action ω → Bool
  | finish _ => true
  | _ => false

/-- A cancel that **asks** to interrupt the worker. -/
def asks : Action ω → Bool
  | cancel _ interrupt => interrupt
  | _ => false

end Action

/-- Nobody contends for the call in these actions. -/
def Uncontended (actions : List (Action ω)) : Prop := ∀ a ∈ actions, a.contends = false

/-- Nobody disputes the call in these actions. -/
def Undisputed (actions : List (Action ω)) : Prop := ∀ a ∈ actions, a.disputes = false

/-- No worker tries to claim the call in these actions. -/
def Unclaimed (actions : List (Action ω)) : Prop := ∀ a ∈ actions, a.isClaim = false

/-- The worker does not finish in these actions. -/
def Unfinished (actions : List (Action ω)) : Prop := ∀ a ∈ actions, a.isFinish = false

/-- The outcome that the **order** of the sections decides, and the flags under which the
controller is invoked for the call. -/
inductive Decided (convert : Response → α) :
    List (Action ω) → CallOutcome α → List Interrupt → Prop
  /-- A cancel came before any claim or drop. -/
  | unstarted {before after : List (Action ω)} {byWorker interrupt : Bool} :
      Uncontended before →
      Decided convert (before ++ .cancel byWorker interrupt :: after) .cancelled []
  /-- The task was dropped before any claim or cancel. -/
  | rejected {before after : List (Action ω)} :
      Uncontended before →
      Decided convert (before ++ .abandon :: after) (.failed .executorRejected) []
  /-- A worker claimed the call and finished before any cancel. -/
  | published {before between after : List (Action ω)} {flag : Interrupt} {ending : Ending}
      {outcome : CallOutcome α} :
      Uncontended before → Undisputed between → Verdict convert ending outcome →
      Decided convert (before ++ .claim flag :: (between ++ .finish ending :: after)) outcome
        [flag]
  /-- A worker claimed the call and a cancel came before its finish. -/
  | displaced {before between after : List (Action ω)} {flag : Interrupt}
      {byWorker interrupt : Bool} :
      Uncontended before → Undisputed between →
      Decided convert (before ++ .claim flag :: (between ++ .cancel byWorker interrupt :: after))
        .cancelled [flag]

/-- A cancel **asked to interrupt** the worker of a flag between its claim and its finish. -/
def Interrupted (flag : Interrupt) (actions : List (Action ω)) : Prop :=
  ∃ (before between after : List (Action ω)) (byWorker : Bool),
    actions = before ++ .claim flag :: (between ++ .cancel byWorker true :: after) ∧
    Uncontended before ∧ Unfinished between

/-! ### The course of a call -/

/-- The **course** of a call: what its sections have come to so far. -/
inductive Course (α : Type) where
  /-- Nobody has contended for the call. -/
  | untouched
  /-- A worker has claimed the call, and nobody disputes it. -/
  | claimed (flag : Interrupt)
  /-- A cancel has displaced the worker; perhaps it or a later one asked to interrupt it. -/
  | displaced (flag : Interrupt) (asked : Bool)
  /-- The outcome is fixed and no worker is left; if there was one, its flag is known, and
  whether a cancel asked to interrupt it. -/
  | ended (outcome : CallOutcome α) (worker : Option (Interrupt × Bool))
deriving DecidableEq, Repr

namespace Course

/-- The course after one more action. -/
def next (convert : Response → α) : Course α → Action ω → Course α
  | .untouched, .claim fresh => .claimed fresh
  | .untouched, .abandon => .ended (.failed .executorRejected) none
  | .untouched, .cancel _ _ => .ended .cancelled none
  | .claimed flag, .finish ending =>
    .ended (Call.outcomeOf convert ending.result) (some (flag, false))
  | .claimed flag, .cancel _ interrupt => .displaced flag interrupt
  | .displaced flag asked, .cancel _ interrupt => .displaced flag (asked || interrupt)
  | .displaced flag asked, .finish _ => .ended .cancelled (some (flag, asked))
  | course, _ => course

/-- The course of a list of actions. -/
def ofActions (convert : Response → α) (actions : List (Action ω)) : Course α :=
  actions.foldl (next convert) .untouched

/-- The worker that has claimed the call, and whether a cancel asked to interrupt it. -/
def worker? : Course α → Option (Interrupt × Bool)
  | untouched => none
  | claimed flag => some (flag, false)
  | displaced flag asked => some (flag, asked)
  | ended _ worker => worker

/-- The flags under which the controller is invoked on a course. -/
def flags (course : Course α) : List Interrupt := (course.worker?.map (·.1)).toList

/-- The flags that are raised on a course. -/
def raised (course : Course α) : List Interrupt :=
  match course.worker? with
  | some (flag, true) => [flag]
  | _ => []

/-- The outcome that is fixed by a course, with the flags of the controller. -/
def ending? (course : Course α) : Option (CallOutcome α × List Interrupt) :=
  match course with
  | untouched | claimed _ => none
  | displaced _ _ => some (.cancelled, course.flags)
  | ended outcome _ => some (outcome, course.flags)

/-- The end of a course tells its flags. -/
theorem flags_of_ending? {course : Course α} {outcome : CallOutcome α} {flags : List Interrupt}
    (h : course.ending? = some (outcome, flags)) : course.flags = flags := by
  unfold ending? at h
  split at h
  · cases h
  · cases h
  · exact (Prod.mk.inj (Option.some.inj h)).2
  · exact (Prod.mk.inj (Option.some.inj h)).2

/-- At most one flag is raised on a course, and it is the one of the controller. -/
theorem eq_singleton_of_mem_raised {course : Course α} {flag : Interrupt}
    (h : flag ∈ course.raised) : course.raised = [flag] ∧ course.flags = [flag] := by
  unfold raised at h
  split at h
  next worker hworker =>
    obtain rfl := List.mem_singleton.mp h
    exact ⟨by rw [raised, hworker], by rw [flags, hworker]; rfl⟩
  next => cases h

variable {convert : Response → α}

/-- The course of one action more. -/
theorem ofActions_concat (actions : List (Action ω)) (a : Action ω) :
    ofActions convert (actions ++ [a]) = (ofActions convert actions).next convert a := by
  rw [ofActions, List.foldl_append, ← ofActions, List.foldl_cons, List.foldl_nil]

/-- A course gets its flag from a claim. -/
theorem flags_next {course : Course α} {a : Action ω} {flag : Interrupt}
    (h : flag ∈ (course.next convert a).flags) : flag ∈ course.flags ∨ a = .claim flag := by
  cases course with
  | untouched =>
      cases a with
      | claim fresh =>
          obtain rfl := List.mem_singleton.mp h
          exact .inr rfl
      | _ => cases h
  | _ => cases a <;> exact .inl h

/-- The flags of a course come from claims. -/
theorem claim_mem_of_mem_flags {course : Course α} {actions : List (Action ω)} {flag : Interrupt}
    (h : flag ∈ (actions.foldl (next convert) course).flags) :
    flag ∈ course.flags ∨ .claim flag ∈ actions := by
  induction actions generalizing course with
  | nil => exact .inl h
  | cons a rest ih =>
      obtain hnext | hrest := ih h
      · obtain hcourse | rfl := flags_next hnext
        · exact .inl hcourse
        · exact .inr List.mem_cons_self
      · exact .inr (List.mem_cons_of_mem a hrest)

/-- Without a cancel, a worker that has claimed the call is not displaced. -/
theorem foldl_ne_displaced {course : Course α} {actions : List (Action ω)} {flag : Interrupt}
    {asked : Bool} (hcourse : ∀ flag asked, course ≠ .displaced flag asked)
    (h : ∀ byWorker interrupt, .cancel byWorker interrupt ∉ actions) :
    actions.foldl (next convert) course ≠ .displaced flag asked := by
  induction actions generalizing course with
  | nil => exact hcourse flag asked
  | cons a rest ih =>
      refine ih (fun flag asked hnext => ?_) fun byWorker interrupt hmem =>
        h byWorker interrupt (List.mem_cons_of_mem a hmem)
      cases course with
      | displaced flag asked => exact hcourse flag asked rfl
      | _ =>
          cases a with
          | cancel byWorker interrupt => exact h byWorker interrupt List.mem_cons_self
          | _ => cases hnext

/-- A course stays as it is while no action takes it on. -/
theorem foldl_eq_self {course : Course α} {actions : List (Action ω)}
    (h : ∀ a ∈ actions, next convert course a = course) :
    actions.foldl (next convert) course = course := by
  induction actions with
  | nil => rfl
  | cons a rest ih =>
      obtain ⟨ha, hrest⟩ := List.forall_mem_cons.mp h
      rw [List.foldl_cons, ha, ih hrest]

/-- A course that has ended stays as it is. -/
theorem foldl_ended (outcome : CallOutcome α) (worker : Option (Interrupt × Bool))
    (actions : List (Action ω)) :
    actions.foldl (next convert) (.ended outcome worker) = .ended outcome worker :=
  foldl_eq_self fun a _ => by cases a <;> rfl

/-- An untouched course stays so while nobody contends. -/
theorem foldl_untouched {actions : List (Action ω)} (h : Uncontended actions) :
    actions.foldl (next convert) .untouched = .untouched := by
  refine foldl_eq_self fun a ha => ?_
  have ha := h a ha
  cases a with
  | claim _ | abandon | cancel _ _ => simp [Action.contends] at ha
  | _ => rfl

/-- A claimed course stays so while nobody disputes. -/
theorem foldl_claimed {flag : Interrupt} {actions : List (Action ω)} (h : Undisputed actions) :
    actions.foldl (next convert) (.claimed flag) = .claimed flag := by
  refine foldl_eq_self fun a ha => ?_
  have ha := h a ha
  cases a with
  | finish _ | cancel _ _ => simp [Action.disputes] at ha
  | _ => rfl

/-- Without a claim, a course is untouched or has ended, and no worker was on it. -/
theorem ofActions_of_unclaimed {actions : List (Action ω)} (h : Unclaimed actions) :
    ofActions convert actions = .untouched ∨
      ∃ outcome, ofActions convert actions = .ended outcome none := by
  induction actions with
  | nil => exact .inl rfl
  | cons a rest ih =>
      obtain ⟨ha, hrest⟩ := List.forall_mem_cons.mp h
      cases a with
      | claim fresh => simp [Action.isClaim] at ha
      | abandon => exact .inr ⟨_, foldl_ended _ _ rest⟩
      | cancel byWorker interrupt => exact .inr ⟨_, foldl_ended _ _ rest⟩
      | _ => exact ih hrest

/-- A displaced course stays so or ends as cancelled, and who has asked to interrupt the worker is
not forgotten. -/
theorem foldl_displaced (flag : Interrupt) (asked : Bool) (actions : List (Action ω)) :
    ∃ later, (asked = true → later = true) ∧
      (actions.foldl (next convert) (.displaced flag asked) = .displaced flag later ∨
        actions.foldl (next convert) (.displaced flag asked) =
          .ended .cancelled (some (flag, later))) := by
  induction actions generalizing asked with
  | nil => exact ⟨asked, id, .inl rfl⟩
  | cons a rest ih =>
      cases a with
      | finish ending => exact ⟨asked, id, .inr (foldl_ended _ _ rest)⟩
      | cancel byWorker interrupt =>
          obtain ⟨later, hlater, hcourse⟩ := ih (asked || interrupt)
          exact ⟨later, fun hasked => hlater (by rw [hasked, Bool.true_or]), hcourse⟩
      | _ => exact ih asked

/-- On a displaced course the outcome is fixed, whatever follows. -/
theorem ending?_foldl_displaced (flag : Interrupt) (asked : Bool) (actions : List (Action ω)) :
    (actions.foldl (next convert) (.displaced flag asked)).ending? =
      some (.cancelled, [flag]) := by
  obtain ⟨later, -, h | h⟩ := foldl_displaced flag asked actions <;> rw [h] <;> rfl

/-- On a displaced course a flag that was raised is not forgotten. -/
theorem raised_foldl_displaced (flag : Interrupt) (actions : List (Action ω)) :
    (actions.foldl (next convert) (.displaced flag true)).raised = [flag] := by
  obtain ⟨later, hlater, h⟩ := foldl_displaced flag true actions
  obtain rfl := hlater rfl
  obtain h | h := h <;> rw [h] <;> rfl

/-- Until the worker finishes, a claimed course is claimed or displaced. -/
theorem foldl_claimed_of_unfinished {flag : Interrupt} {actions : List (Action ω)}
    (h : Unfinished actions) (course : Course α)
    (hcourse : course = .claimed flag ∨ ∃ asked, course = .displaced flag asked) :
    actions.foldl (next convert) course = .claimed flag ∨
      ∃ asked, actions.foldl (next convert) course = .displaced flag asked := by
  induction actions generalizing course with
  | nil => exact hcourse
  | cons a rest ih =>
      obtain ⟨ha, hrest⟩ := List.forall_mem_cons.mp h
      refine ih hrest _ ?_
      obtain rfl | ⟨asked, rfl⟩ := hcourse
      · cases a with
        | finish _ => simp [Action.isFinish] at ha
        | cancel _ interrupt => exact .inr ⟨interrupt, rfl⟩
        | _ => exact .inl rfl
      · cases a with
        | finish _ => simp [Action.isFinish] at ha
        | cancel _ interrupt => exact .inr ⟨asked || interrupt, rfl⟩
        | _ => exact .inr ⟨asked, rfl⟩

/-- A flag that is raised after its claim was asked for before the worker's finish. -/
theorem exists_asked_of_mem_raised {flag raisedFlag : Interrupt} {actions : List (Action ω)}
    (course : Course α) (hcourse : course = .claimed flag ∨ course = .displaced flag false)
    (h : raisedFlag ∈ (actions.foldl (next convert) course).raised) :
    raisedFlag = flag ∧ ∃ between byWorker after,
      actions = between ++ .cancel byWorker true :: after ∧ Unfinished between := by
  induction actions generalizing course with
  | nil => obtain rfl | rfl := hcourse <;> simp [raised, worker?] at h
  | cons a rest ih =>
      -- The head either asks, or ends the course unasked, or leaves it as it was.
      have skip (hskip : a.isFinish = false)
          (hnext : next convert course a = .claimed flag ∨
            next convert course a = .displaced flag false) :
          raisedFlag = flag ∧ ∃ between byWorker after,
            a :: rest = between ++ .cancel byWorker true :: after ∧ Unfinished between := by
        obtain ⟨hflag, between, byWorker, after, rfl, hbetween⟩ := ih _ hnext h
        exact ⟨hflag, a :: between, byWorker, after, rfl,
          List.forall_mem_cons.mpr ⟨hskip, hbetween⟩⟩
      cases a with
      | finish ending =>
          rw [List.foldl_cons] at h
          obtain rfl | rfl := hcourse <;> simp [next, foldl_ended, raised, worker?] at h
      | cancel byWorker interrupt =>
          cases interrupt with
          | false =>
              refine skip rfl (.inr ?_)
              obtain rfl | rfl := hcourse <;> rfl
          | true =>
              refine ⟨?_, [], byWorker, rest, rfl, List.forall_mem_nil _⟩
              rw [List.foldl_cons] at h
              obtain rfl | rfl := hcourse <;>
                simpa [next, raised_foldl_displaced] using h
      | _ =>
          refine skip rfl ?_
          obtain rfl | rfl := hcourse <;> simp [next]

end Course

/-! ### Agreement -/

/-- The first element of a list that passes a test splits the list, if any passes. -/
theorem eq_append_of_first {β : Type} (p : β → Bool) (l : List β) :
    (∀ a ∈ l, p a = false) ∨
      ∃ before a after, l = before ++ a :: after ∧ (∀ b ∈ before, p b = false) ∧ p a = true := by
  cases h : l.find? p with
  | none =>
      left
      simpa using h
  | some a =>
      right
      obtain ⟨ha, before, after, rfl, hbefore⟩ := List.find?_eq_some_iff_append.mp h
      exact ⟨before, a, after, rfl, by simpa using hbefore, ha⟩

/-- A list is split at its first element that passes a test in one way only. -/
theorem eq_of_first {β : Type} {p : β → Bool} {before₁ before₂ after₁ after₂ : List β} {a₁ a₂ : β}
    (h : before₁ ++ a₁ :: after₁ = before₂ ++ a₂ :: after₂)
    (hbefore₁ : ∀ b ∈ before₁, p b = false) (ha₁ : p a₁ = true)
    (hbefore₂ : ∀ b ∈ before₂, p b = false) (ha₂ : p a₂ = true) :
    before₁ = before₂ ∧ a₁ = a₂ ∧ after₁ = after₂ := by
  induction before₁ generalizing before₂ with
  | nil =>
      cases before₂ with
      | nil =>
          obtain ⟨rfl, rfl⟩ := List.cons.inj h
          exact ⟨rfl, rfl, rfl⟩
      | cons b rest =>
          obtain ⟨rfl, -⟩ := List.cons.inj h
          simp [hbefore₂ a₁ List.mem_cons_self] at ha₁
  | cons b rest ih =>
      cases before₂ with
      | nil =>
          obtain ⟨rfl, -⟩ := List.cons.inj h
          simp [hbefore₁ b List.mem_cons_self] at ha₂
      | cons c other =>
          obtain ⟨rfl, htail⟩ := List.cons.inj h
          obtain ⟨rfl, ha, hafter⟩ := ih htail (List.forall_mem_cons.mp hbefore₁).2
            (List.forall_mem_cons.mp hbefore₂).2
          exact ⟨rfl, ha, hafter⟩

variable {convert : Response → α}

/-- What the order decides is the end of the course. -/
theorem Decided.ending? {actions : List (Action ω)} {outcome : CallOutcome α}
    {flags : List Interrupt} (h : Decided convert actions outcome flags) :
    (Course.ofActions convert actions).ending? = some (outcome, flags) := by
  cases h with
  | unstarted hbefore | rejected hbefore =>
      rw [Course.ofActions, List.foldl_append, Course.foldl_untouched hbefore,
        List.foldl_cons, Course.next, Course.foldl_ended]
      rfl
  | published hbefore hbetween hverdict =>
      rw [Course.ofActions, List.foldl_append, Course.foldl_untouched hbefore,
        List.foldl_cons, Course.next, List.foldl_append, Course.foldl_claimed hbetween,
        List.foldl_cons, Course.next, Course.foldl_ended, verdict_iff_outcomeOf.mp hverdict]
      rfl
  | displaced hbefore hbetween =>
      rw [Course.ofActions, List.foldl_append, Course.foldl_untouched hbefore,
        List.foldl_cons, Course.next, List.foldl_append, Course.foldl_claimed hbetween,
        List.foldl_cons, Course.next, Course.ending?_foldl_displaced]

/-- The end of the course is what the order decides. -/
theorem decided_of_ending? {actions : List (Action ω)} {outcome : CallOutcome α}
    {flags : List Interrupt}
    (h : (Course.ofActions convert actions).ending? = some (outcome, flags)) :
    Decided convert actions outcome flags := by
  obtain hnone | ⟨before, a, after, rfl, hbefore, ha⟩ :=
    eq_append_of_first Action.contends actions
  · rw [Course.ofActions, Course.foldl_untouched hnone] at h
    simp [Course.ending?] at h
  rw [Course.ofActions, List.foldl_append, Course.foldl_untouched hbefore,
    List.foldl_cons] at h
  cases a with
  | cancel byWorker interrupt =>
      rw [Course.next, Course.foldl_ended, Course.ending?] at h
      obtain ⟨rfl, rfl⟩ := Prod.mk.inj (Option.some.inj h)
      exact .unstarted hbefore
  | abandon =>
      rw [Course.next, Course.foldl_ended, Course.ending?] at h
      obtain ⟨rfl, rfl⟩ := Prod.mk.inj (Option.some.inj h)
      exact .rejected hbefore
  | claim flag =>
      rw [Course.next] at h
      obtain hnone | ⟨between, d, rest, rfl, hbetween, hd⟩ :=
        eq_append_of_first Action.disputes after
      · rw [Course.foldl_claimed hnone] at h
        simp [Course.ending?] at h
      rw [List.foldl_append, Course.foldl_claimed hbetween, List.foldl_cons] at h
      cases d with
      | finish ending =>
          rw [Course.next, Course.foldl_ended, Course.ending?] at h
          obtain ⟨rfl, rfl⟩ := Prod.mk.inj (Option.some.inj h)
          exact .published hbefore hbetween (verdict_iff_outcomeOf.mpr rfl)
      | cancel byWorker interrupt =>
          rw [Course.next, Course.ending?_foldl_displaced] at h
          obtain ⟨rfl, rfl⟩ := Prod.mk.inj (Option.some.inj h)
          exact .displaced hbefore hbetween
      | _ => simp [Action.disputes] at hd
  | _ => simp [Action.contends] at ha

/-- The order decides exactly what the course ends in. -/
theorem decided_iff_ending? {actions : List (Action ω)} {outcome : CallOutcome α}
    {flags : List Interrupt} :
    Decided convert actions outcome flags ↔
      (Course.ofActions convert actions).ending? = some (outcome, flags) :=
  ⟨Decided.ending?, decided_of_ending?⟩

/-- The order decides **at most one** outcome, and at most one way of invoking the
controller. -/
theorem Decided.unique {actions : List (Action ω)} {o₁ o₂ : CallOutcome α}
    {flags₁ flags₂ : List Interrupt} (h₁ : Decided convert actions o₁ flags₁)
    (h₂ : Decided convert actions o₂ flags₂) : o₁ = o₂ ∧ flags₁ = flags₂ := by
  have h := h₁.ending?.symm.trans h₂.ending?
  exact Prod.mk.inj (Option.some.inj h)

/-- The flags raised on the course are those that a cancel asked for in time. -/
theorem interrupted_iff_mem_raised {actions : List (Action ω)} {flag : Interrupt} :
    Interrupted flag actions ↔ flag ∈ (Course.ofActions convert actions).raised := by
  constructor
  · rintro ⟨before, between, after, byWorker, rfl, hbefore, hbetween⟩
    rw [Course.ofActions, List.foldl_append, Course.foldl_untouched hbefore,
      List.foldl_cons, Course.next, List.foldl_append, List.foldl_cons]
    have hasked : Course.next convert (between.foldl (Course.next convert) (.claimed flag))
        (.cancel byWorker true : Action ω) = .displaced flag true := by
      have hcourse : between.foldl (Course.next convert) (.claimed flag) = .claimed flag ∨
          ∃ asked, between.foldl (Course.next convert) (.claimed flag) = .displaced flag asked :=
        Course.foldl_claimed_of_unfinished hbetween _ (.inl rfl)
      obtain h | ⟨asked, h⟩ := hcourse
      · rw [h, Course.next]
      · rw [h, Course.next, Bool.or_true]
    rw [hasked, Course.raised_foldl_displaced]
    exact List.mem_singleton_self flag
  · intro h
    obtain hnone | ⟨before, a, after, rfl, hbefore, ha⟩ :=
      eq_append_of_first Action.contends actions
    · rw [Course.ofActions, Course.foldl_untouched hnone] at h
      simp [Course.raised, Course.worker?] at h
    rw [Course.ofActions, List.foldl_append, Course.foldl_untouched hbefore,
      List.foldl_cons] at h
    cases a with
    | cancel _ _ | abandon =>
        rw [Course.next, Course.foldl_ended] at h
        simp [Course.raised, Course.worker?] at h
    | claim claimed =>
        rw [Course.next] at h
        obtain ⟨rfl, between, byWorker, rest, rfl, hbetween⟩ :=
          Course.exists_asked_of_mem_raised _ (.inl rfl) h
        exact ⟨before, between, rest, byWorker, rfl, hbefore, hbetween⟩
    | _ => simp [Action.contends] at ha

end CallGate

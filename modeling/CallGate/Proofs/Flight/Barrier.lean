import CallGate.Proofs.Flight.Standing

/-!
# Cancelling as a Barrier

Whoever comes back from a cancel knows that the controller is not running the call and will
not run it, whatever the cancel has answered and whoever else cancelled it. The answer is
read after the owner lock was given back; it is the same for all cancels because the slot is
written once, and before any of them reads it.

## Main results

* `Flight.barrier_of_run?`: what holds from the return of a cancel on.
-/

namespace CallGate.Flight

variable {ω α : Type} [BEq ω] {convert : Response → α} {outcome : CallOutcome α}
  {flags raised : List Interrupt} {f g : Flight ω α} {actions : List (Action ω)}
  {effects new : List (Effect ω)}

/-- A cancel before any claim keeps the controller from being invoked. -/
theorem invocations_eq_nil_of_unclaimed {before after : List (Action ω)}
    {byWorker interrupt : Bool} (hbefore : Unclaimed before)
    (hrun : ({} : Flight ω α).run? convert
      (before ++ .cancel byWorker interrupt :: after) = some (f, effects)) :
    invocations effects = [] := by
  have hstands := stands_of_run? hrun
  obtain ⟨outcome, hcourse⟩ : ∃ outcome,
      Course.ofActions convert (before ++ .cancel byWorker interrupt :: after) =
        .ended outcome none := by
    rw [Course.ofActions, List.foldl_append, ← Course.ofActions, List.foldl_cons]
    obtain h | ⟨outcome, h⟩ := Course.ofActions_of_unclaimed hbefore <;> rw [h]
    · exact ⟨.cancelled, Course.foldl_ended _ _ after⟩
    · exact ⟨outcome, Course.foldl_ended _ _ after⟩
  rw [hcourse] at hstands
  exact hstands.told.1

/-- **The barrier.** A cancel that takes the owner lock before the claim keeps the controller
from being invoked. Once any cancel has its answer, the outcome is in the slot and the answer
is whether it is the cancelled one; from then on no worker runs the call, the controller is not
invoked, the status that is read is the same, and every other cancel answers the same. -/
theorem barrier_of_run? (hrun : ({} : Flight ω α).run? convert actions = some (f, effects)) :
    (∀ before after byWorker interrupt, Unclaimed before →
      actions = before ++ .cancel byWorker interrupt :: after → invocations effects = []) ∧
    (∀ position cancelled, f.answer? position = some cancelled →
      ∃ outcome, f.call.outcome? = some outcome ∧ (cancelled = true ↔ outcome = .cancelled) ∧
        ∀ later g new, f.run? convert later = some (g, new) →
          g.task.flag? = none ∧ invocations new = [] ∧ g.call.outcome? = some outcome ∧
            (g.call.look.value = .cancelled ↔ cancelled = true) ∧
            ∀ other answer, g.answer? other = some answer → answer = cancelled) := by
  refine ⟨fun before after byWorker interrupt hbefore hactions => ?_,
    fun position cancelled hanswer => ?_⟩
  · rw [hactions] at hrun
    exact invocations_eq_nil_of_unclaimed hbefore hrun
  · have hstands := stands_of_run? hrun
    obtain ⟨outcome, worker, hcourse, hdone, hcancelled⟩ := hstands.ended_of_answer? hanswer
    rw [hcourse] at hstands
    refine ⟨outcome, hdone, by rw [hcancelled, CallOutcome.isCancelled_iff], ?_⟩
    intro later g new hlater
    obtain ⟨hfixed, hinvoked, -⟩ := Fixed.quiet_of_run? hstands hlater
    have hstill : g.call.outcome? = some outcome := outcome?_of_run? hlater hdone
    refine ⟨hfixed.idle, hinvoked, hstill, ?_, fun other answer hother => ?_⟩
    · rw [Call.look, Call.status_of_outcome? hstill, hcancelled, ← outcome.status_beq_cancelled,
        beq_iff_eq]
    · have hg : Stands (.ended outcome worker) (effects ++ new) g := hfixed
      obtain ⟨_, _, hended, -, hanswered⟩ := hg.ended_of_answer? hother
      obtain ⟨rfl, -⟩ := Course.ended.inj hended
      rw [hanswered, hcancelled]

/-- A cancel comes before the worker, which finds the call taken and leaves. -/
def preemptingActions : List (Action Nat) :=
  [.poll 1, .cancel false true, .settle, .wake, .release, .claim ⟨7⟩, .read 0]

/-- Another cancel comes, and the task goes away before it reads its answer. -/
def belatedActions : List (Action Nat) :=
  [.cancel false false, .settle, .release, .abandon, .read 1]

/-- Both cancels answer that the call is cancelled, and the controller is never invoked. -/
theorem barrier_preemptingActions :
    ∃ f g effects new,
      ({} : Flight Nat Json).run? Response.node preemptingActions = some (f, effects) ∧
        f.answer? 0 = some true ∧ f.run? Response.node belatedActions = some (g, new) ∧
        g.answer? 1 = some true ∧ invocations effects = [] ∧ invocations new = [] := by
  obtain ⟨f, g, effects, new, hrun, hanswer, hlater, c, hother⟩ : ∃ f g effects new,
      ({} : Flight Nat Json).run? Response.node preemptingActions = some (f, effects) ∧
        f.answer? 0 = some true ∧ f.run? Response.node belatedActions = some (g, new) ∧
        ∃ answer, g.answer? 1 = some answer :=
    ⟨_, _, _, _, rfl, rfl, rfl, _, rfl⟩
  obtain ⟨hbefore, hafter⟩ := barrier_of_run? hrun
  obtain ⟨outcome, -, -, hbarrier⟩ := hafter 0 true hanswer
  obtain ⟨-, hquiet, -, -, hagree⟩ := hbarrier belatedActions g new hlater
  have hnever : invocations effects = [] :=
    hbefore [.poll 1] _ false true (by simp [Unclaimed, Action.isClaim]) rfl
  rw [hagree 1 c hother] at hother
  exact ⟨f, g, effects, new, hrun, hanswer, hlater, hother, hnever, hquiet⟩

end CallGate.Flight

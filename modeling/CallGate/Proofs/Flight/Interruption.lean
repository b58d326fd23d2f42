import CallGate.Client
import CallGate.Proofs.Flight.Standing

/-!
# Interrupting the Worker

A cancel that asks for it interrupts the worker if it comes between the worker's claim and its
finish (`Interrupted`), and then the flag of the worker is raised once, by the first cancel
that asks, whether or not a quieter one came before it. Any other cancel raises nothing. The
flag is the one that the controller was invoked with, so that what it sees of its context is
exactly whether it was interrupted.

## Main results

* `Flight.interruption_of_run?`: what is raised, how it is counted and what the controller sees.
-/

namespace CallGate

variable {ω α : Type}

namespace Signals

/-- Effects one after the other. -/
theorem after_append (s : Signals) (effects new : List (Effect ω)) :
    s.after (effects ++ new) = (s.after effects).after new :=
  List.foldl_append

/-- After some effects, those flags are raised that were raised before and those that the
effects have raised. -/
theorem isRaised_after (s : Signals) (effects : List (Effect ω)) (flag : Interrupt) :
    (s.after effects).isRaised flag = true ↔
      s.isRaised flag = true ∨ flag ∈ raises effects := by
  induction effects generalizing s with
  | nil => simp [after, raises]
  | cons effect rest ih =>
      rw [after, List.foldl_cons, ← after, ih]
      cases effect with
      | raise raised =>
          rw [apply, isRaised_raise, or_assoc, ← List.mem_cons]
          rfl
      | _ => rfl

end Signals

/-- The context of an invocation has the flag it is invoked with, inside the boundary or not. -/
theorem Dispatch.invocation_interrupt (d : Dispatch) (flag : Interrupt) (request : RequestId) :
    (d.invocation flag request).context.interrupt = flag := by
  rw [invocation, context_eq]

namespace Flight

variable [BEq ω] {convert : Response → α}

/-- **Interrupted once, and only in time.** If a cancel asked for it between the claim and the
finish, one flag is raised and counted, and no controller is invoked with another one. If none
did, no flag is raised and none is counted. A controller sees in its context that it is
interrupted exactly if its flag was raised before or a cancel asked for it in time, and what it
has seen it goes on seeing. -/
theorem interruption_of_run? {actions : List (Action ω)} {f : Flight ω α}
    {effects : List (Effect ω)}
    (hrun : ({} : Flight ω α).run? convert actions = some (f, effects)) :
    (∀ flag, Interrupted flag actions →
      f.call.interrupts = 1 ∧ raises effects = [flag] ∧
        ∀ invoked ∈ invocations effects, invoked = flag) ∧
    ((∀ flag, ¬ Interrupted flag actions) → f.call.interrupts = 0 ∧ raises effects = []) ∧
    (∀ (flag : Interrupt) (d : Dispatch) (request : RequestId) (s : Signals),
      ((d.invocation flag request).context.isInterrupted (s.after effects) = true ↔
        s.isRaised flag = true ∨ Interrupted flag actions) ∧
      ∀ earlier, earlier <+: effects →
        (d.invocation flag request).context.isInterrupted (s.after earlier) = true →
        (d.invocation flag request).context.isInterrupted (s.after effects) = true) := by
  have hstands := stands_of_run? hrun
  refine ⟨fun flag hflag => ?_, fun hnone => ?_, fun flag d request s => ?_⟩
  · obtain ⟨hraised, hflags⟩ :=
      Course.eq_singleton_of_mem_raised (interrupted_iff_mem_raised.mp hflag)
    refine ⟨?_, ?_, fun invoked hinvoked => ?_⟩
    · rw [hstands.interrupts_eq, hraised, List.length_singleton]
    · rw [hstands.raises_eq, hraised]
    · have hmem := hstands.invocations_prefix.subset hinvoked
      rw [hflags] at hmem
      exact List.mem_singleton.mp hmem
  · have hraised : (Course.ofActions convert actions).raised = [] :=
      List.eq_nil_iff_forall_not_mem.mpr fun flag hflag =>
        hnone flag (interrupted_iff_mem_raised.mpr hflag)
    exact ⟨by rw [hstands.interrupts_eq, hraised, List.length_nil],
      by rw [hstands.raises_eq, hraised]⟩
  · have hsees (s : Signals) :
        (d.invocation flag request).context.isInterrupted s = s.isRaised flag := by
      rw [ExecutionContext.isInterrupted, d.invocation_interrupt]
    simp only [hsees]
    constructor
    · rw [Signals.isRaised_after, hstands.raises_eq, ← interrupted_iff_mem_raised]
    · rintro earlier ⟨later, rfl⟩ hseen
      rw [Signals.after_append, Signals.isRaised_after]
      exact .inl hseen

/-- A quiet cancel displaces the worker, two later ones both ask to interrupt it, and another one
asks when the worker has finished. -/
def insistingActions : List (Action Nat) :=
  [.claim ⟨7⟩, .cancel false false, .invoke, .cancel false true, .cancel false true,
    .finish (.panicked .other), .cancel false true]

/-- The worker is interrupted once. -/
theorem interrupted_insistingActions :
    ∃ f effects,
      ({} : Flight Nat Json).run? Response.node insistingActions = some (f, effects) ∧
        Interrupted ⟨7⟩ insistingActions ∧ f.call.interrupts = 1 ∧ raises effects = [⟨7⟩] := by
  obtain ⟨f, effects, hrun⟩ : ∃ f effects,
      ({} : Flight Nat Json).run? Response.node insistingActions = some (f, effects) :=
    ⟨_, _, rfl⟩
  have hinterrupted : Interrupted ⟨7⟩ insistingActions := by
    refine ⟨[], [.cancel false false, .invoke], _, false, rfl, ?_, ?_⟩
    · simp [Uncontended]
    · simp [Unfinished, Action.isFinish]
  obtain ⟨hcount, hraised, -⟩ := (interruption_of_run? hrun).1 _ hinterrupted
  exact ⟨f, effects, hrun, hinterrupted, hcount, hraised⟩

end Flight

end CallGate

import CallGate.Proofs.Flight.Standing

/-!
# The Outcome of a Call

However the sections of a call interleave, with whatever cancels parked in the middle, the
call ends in the outcome that the order of its sections decides (`Decided`), and the
controller is invoked as often as that order says: once if a worker claimed the call, else
never. The moment between a displaced worker's finish and the settling of the call, in which
the task goes away as well, makes no difference.

## Main results

* `Flight.outcome_of_run?`: the outcome of a run is the decided one.
-/

namespace CallGate.Flight

variable {ω α : Type} [BEq ω] {convert : Response → α}

/-- **The order decides.** An outcome in the slot is the one that the actions so far decide, and
the controller was invoked under the flags that go with it. As soon as an outcome is decided, no
other one can be in the slot, and the controller is invoked under no other flags. At rest
there is an outcome. -/
theorem outcome_of_run? {actions : List (Action ω)} {f : Flight ω α} {effects : List (Effect ω)}
    (hrun : ({} : Flight ω α).run? convert actions = some (f, effects)) :
    (∀ outcome, f.call.outcome? = some outcome →
      Decided convert actions outcome (invocations effects)) ∧
    (∀ outcome flags, Decided convert actions outcome flags →
      invocations effects <+: flags ∧
        (f.call.outcome? = none ∨ f.call.outcome? = some outcome)) ∧
    (f.AtRest → ∃ outcome, f.call.outcome? = some outcome) := by
  have hstands := stands_of_run? hrun
  refine ⟨fun outcome hdone => ?_, fun outcome flags hdecided => ?_, fun hrest => ?_⟩
  · exact decided_iff_ending?.mpr (hstands.ending?_of_outcome? hdone)
  · have hend := decided_iff_ending?.mp hdecided
    refine ⟨?_, hstands.outcome?_of_ending? hend⟩
    rw [← Course.flags_of_ending? hend]
    exact hstands.invocations_prefix
  · exact hstands.outcome?_of_atRest hrest

/-- Two cancels displace a worker that has come to a result. Its task goes away before either
of them settles the call, and the later one settles it first. -/
def displacedActions : List (Action Nat) :=
  [.claim ⟨7⟩, .invoke, .cancel false false, .poll 1, .cancel false true,
    .finish (.returned (.success .null)), .abandon, .resume 1, .settle, .wake, .release, .read 1,
    .resume 0, .settle, .release, .read 0]

/-- The call is cancelled, and the controller was invoked once. -/
theorem decided_displacedActions :
    ∃ f effects,
      ({} : Flight Nat Json).run? Response.node displacedActions = some (f, effects) ∧
        f.AtRest ∧ f.call.outcome? = some .cancelled ∧
        Decided Response.node displacedActions .cancelled [⟨7⟩] := by
  obtain ⟨f, effects, hrun, hrest, hdone, hinvoked⟩ : ∃ f effects,
      ({} : Flight Nat Json).run? Response.node displacedActions = some (f, effects) ∧
        f.AtRest ∧ f.call.outcome? = some .cancelled ∧ invocations effects = [⟨7⟩] :=
    ⟨_, _, rfl, ⟨rfl, rfl, by decide⟩, rfl, rfl⟩
  have hdecided := (outcome_of_run? hrun).1 .cancelled hdone
  rw [hinvoked] at hdecided
  exact ⟨f, effects, hrun, hrest, hdone, hdecided⟩

end CallGate.Flight

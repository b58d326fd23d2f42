import CallGate.Proofs.Flight.Step

/-!
# Wake-ups

Whoever polls a call that has no outcome yet leaves a waker and relies on being woken. The wakers
that were woken, those that the holder of the owner lock has yet to wake (`Flight.due`) and those
on the list of the slot make up the *roll* of a call. A waker goes from the list to those who are
due, and from there to those who were woken, and never changes its place on the roll by that: a
step leaves the roll as it is, unless it is the first poll of a task, which is added at the end
(`Flight.Transfer.roll_eq`). So nobody who polled is lost, and nobody is woken twice.

Wakers are compared by a test that says whether they would wake the same task. It is an
equivalence, but wakers that are equivalent need not be the same.

## Main results

* `Flight.Step.transfer`: what a step does to the wakers.
* `Flight.wakeups_of_run?`: who is on the list, who is woken, and when.
-/

namespace CallGate

variable {ω α : Type}

/-! ### The roll -/

/-- The waker of an effect that wakes one. -/
def Effect.woken? : Effect ω → Option ω
  | wake waker => some waker
  | _ => none

/-- The wakers that were **woken**, in order. -/
def wakes (effects : List (Effect ω)) : List ω := effects.filterMap Effect.woken?

/-- Effects one after the other wake whom each of them wakes. -/
theorem wakes_append (effects new : List (Effect ω)) :
    wakes (effects ++ new) = wakes effects ++ wakes new :=
  List.filterMap_append

namespace Flight

/-- The wakers that are **due**: the holder of the owner lock has yet to wake them. -/
def due (f : Flight ω α) : List ω :=
  match f.lock with
  | some ⟨_, .wake wakers⟩ => wakers
  | _ => []

/-- The **roll** of a flight after some effects. -/
def roll (f : Flight ω α) (effects : List (Effect ω)) : List ω :=
  wakes effects ++ (f.due ++ f.call.wakers)

variable {f : Flight ω α} {party : Party}

/-- Nobody is due while nobody holds the owner lock. -/
theorem due_of_free (hfree : f.lock = none) : f.due = [] := by
  rw [due, hfree]

/-- Nobody is due while an outcome is still to be written. -/
theorem due_of_settle {outcome : CallOutcome α} (hlock : f.lock = some ⟨party, .settle outcome⟩) :
    f.due = [] := by
  rw [due, hlock]

/-- Those whom the holder of the owner lock has yet to wake are due. -/
theorem due_of_wake {wakers : List ω} (hlock : f.lock = some ⟨party, .wake wakers⟩) :
    f.due = wakers := by
  rw [due, hlock]

/-- Whoever is due **can be woken**, by the holder of the owner lock, who cannot give the lock back
before. -/
theorem wake?_of_due {waker : ω} {rest : List ω} (hdue : f.due = waker :: rest) :
    (∃ g, f.wake? = some (g, [.wake waker]) ∧ g.due = rest) ∧ f.release? = none := by
  unfold due at hdue
  split at hdue
  next party wakers hlock =>
    subst hdue
    exact ⟨⟨{ f with lock := some ⟨party, .wake rest⟩ }, by rw [wake?, hlock], rfl⟩,
      by rw [release?, hlock]⟩
  next => cases hdue

end Flight

/-- Nobody is on the list of a call that has its outcome. -/
theorem Call.wakers_of_outcome? {c : Call ω α} {outcome : CallOutcome α}
    (hdone : c.outcome? = some outcome) : c.wakers = [] := by
  cases hslot : c.slot with
  | done => rw [wakers, hslot]
  | waiting => simp [outcome?, hslot] at hdone

/-! ### What a step does to the wakers -/

/-- How a step **passes on** the wakers: the flight before, the action, the flight after it and
the effects. -/
inductive Flight.Transfer [BEq ω] (f : Flight ω α) (a : Action ω) (g : Flight ω α)
    (new : List (Effect ω)) : Prop
  /-- It leaves all of them where they are. -/
  | kept : wakes new = [] → g.due = f.due → g.call.slot = f.call.slot → Transfer f a g new
  /-- It puts the first waker of a task on the list. -/
  | enlisted (waker : ω) : a = .poll waker → wakes new = [] → g.due = f.due →
      f.call.outcome? = none → f.call.wakers.any (· == waker) = false →
      g.call.outcome? = none → g.call.wakers = f.call.wakers ++ [waker] → Transfer f a g new
  /-- It writes the slot, and all who were on the list are due. -/
  | handedOver (outcome : CallOutcome α) : a = .settle → wakes new = [] → f.due = [] →
      f.call.outcome? = none → g.due = f.call.wakers → g.call.outcome? = some outcome →
      Transfer f a g new
  /-- It wakes the first of those who are due. -/
  | woke (waker : ω) : a = .wake → wakes new = [waker] → f.due = waker :: g.due →
      g.call.slot = f.call.slot → Transfer f a g new

namespace Flight

variable [BEq ω] {convert : Response → α} {f g last : Flight ω α} {a : Action ω}
  {actions later : List (Action ω)} {effects new told : List (Effect ω)}

/-- **One step** passes on the wakers in one of these ways. -/
theorem Step.transfer (hstep : Step convert f a g new) : Transfer f a g new := by
  cases hstep with
  | claimed | refused | invoked | answered | looked => exact .kept rfl rfl rfl
  | finished hfree | discarded hfree | rejected hfree | departed hfree | preempted hfree
  | stayed hfree | resumed hfree =>
      exact .kept rfl (due_of_free hfree).symm rfl
  | @displacing _ interrupt _ hfree =>
      exact .kept (by cases interrupt <;> rfl) (due_of_free hfree).symm rfl
  | @joined _ interrupt raised _ hfree =>
      exact .kept (by cases interrupt <;> cases raised <;> rfl) (due_of_free hfree).symm rfl
  | @settled _ outcome wakers hlock hslot =>
      exact .handedOver outcome rfl rfl (due_of_settle hlock) (by simp [Call.outcome?, hslot])
        (by simp [due, Call.wakers, hslot]) rfl
  | ignored hlock => exact .kept rfl (due_of_settle hlock).symm rfl
  | @woke _ waker _ hlock => exact .woke waker rfl rfl (due_of_wake hlock) rfl
  | vacated hlock | letGo hlock | released hlock => exact .kept rfl (due_of_wake hlock).symm rfl
  | @polled waker =>
      cases hslot : f.call.slot with
      | done outcome => exact .kept rfl rfl (by simp [Call.poll, hslot])
      | waiting listed =>
          have hlisted : f.call.wakers = listed := by rw [Call.wakers, hslot]
          cases hany : listed.any (· == waker) with
          | true => exact .kept rfl rfl (by simp [Call.poll, hslot, hany])
          | false =>
              exact .enlisted waker rfl rfl rfl (by simp [Call.outcome?, hslot])
                (by rw [hlisted, hany]) (by rw [Call.poll_outcome?, Call.outcome?, hslot])
                (by simp [Call.wakers, Call.poll, hslot, hany])

/-- The section that writes the slot makes due those who are on the list. -/
theorem Step.due_of_settle (hstep : Step convert f .settle g new)
    (hwaiting : f.call.outcome? = none) :
    wakes new = [] ∧ g.due = f.call.wakers ∧ g.call.outcome? ≠ none := by
  cases hstep with
  | settled hlock hslot => exact ⟨rfl, by simp [due, Call.wakers, hslot], by simp [Call.outcome?]⟩
  | ignored hlock hslot => simp [Call.outcome?, hslot] at hwaiting

namespace Transfer

/-- A step leaves the roll as it is, unless it puts a waker on the list, which is then the last on
the roll. -/
theorem roll_eq (h : Transfer f a g new) (effects : List (Effect ω)) :
    g.roll (effects ++ new) = f.roll effects ∨
      ∃ waker, a = .poll waker ∧ f.call.outcome? = none ∧
        f.call.wakers.any (· == waker) = false ∧
        g.roll (effects ++ new) = f.roll effects ++ [waker] := by
  cases h with
  | kept hquiet hdue hslot =>
      refine .inl ?_
      rw [roll, roll, wakes_append, hquiet, hdue, Call.wakers, Call.wakers, hslot, List.append_nil]
  | enlisted waker haction hquiet hdue hwaiting hnew _ hlisted =>
      refine .inr ⟨waker, haction, hwaiting, hnew, ?_⟩
      rw [roll, roll, wakes_append, hquiet, hdue, hlisted]
      simp only [List.append_nil, List.append_assoc]
  | handedOver outcome _ hquiet hnone _ hdue hdone =>
      refine .inl ?_
      rw [roll, roll, wakes_append, hquiet, hnone, hdue, Call.wakers_of_outcome? hdone]
      simp only [List.append_nil, List.nil_append]
  | woke waker _ hwoken hdue hslot =>
      refine .inl ?_
      rw [roll, roll, wakes_append, hwoken, hdue, Call.wakers, Call.wakers, hslot]
      simp only [List.append_assoc, List.cons_append, List.nil_append]

/-- The roll only grows at its end. -/
theorem roll_prefix (h : Transfer f a g new) (effects : List (Effect ω)) :
    f.roll effects <+: g.roll (effects ++ new) := by
  obtain hsame | ⟨waker, -, -, -, hmore⟩ := h.roll_eq effects
  · exact hsame ▸ List.prefix_rfl
  · exact hmore ▸ List.prefix_append _ _

/-- Once there is an outcome, a step leaves the slot as it is, and wakes nobody but the first of
those who are due. -/
theorem of_done {outcome : CallOutcome α} (h : Transfer f a g new)
    (hdone : f.call.outcome? = some outcome) :
    g.call.slot = f.call.slot ∧ wakes new ++ g.due = f.due := by
  cases h with
  | kept hquiet hdue hslot => exact ⟨hslot, by rw [hquiet, hdue, List.nil_append]⟩
  | enlisted _ _ _ _ hwaiting | handedOver _ _ _ _ hwaiting => simp [hwaiting] at hdone
  | woke waker _ hwoken hdue hslot => exact ⟨hslot, by rw [hwoken, hdue, List.singleton_append]⟩

/-- Once there is an outcome, only waking wakes. -/
theorem of_ne_wake {outcome : CallOutcome α} (h : Transfer f a g new) (hother : a ≠ .wake)
    (hdone : f.call.outcome? = some outcome) :
    wakes new = [] ∧ g.due = f.due ∧ g.call.slot = f.call.slot := by
  cases h with
  | kept hquiet hdue hslot => exact ⟨hquiet, hdue, hslot⟩
  | enlisted _ _ _ _ hwaiting | handedOver _ _ _ _ hwaiting => simp [hwaiting] at hdone
  | woke _ haction => exact absurd haction hother

/-- A step after which there is no outcome began without one, and wakes nobody and makes nobody
due if nobody was due before. -/
theorem of_waiting (h : Transfer f a g new) (hdue : f.call.outcome? = none → f.due = [])
    (hwaiting : g.call.outcome? = none) :
    f.call.outcome? = none ∧ wakes new = [] ∧ g.due = [] := by
  cases h with
  | kept hquiet hsame hslot =>
      have hbefore : f.call.outcome? = none := by rwa [Call.outcome?, hslot] at hwaiting
      exact ⟨hbefore, hquiet, hsame.trans (hdue hbefore)⟩
  | enlisted _ _ hquiet hsame hbefore => exact ⟨hbefore, hquiet, hsame.trans (hdue hbefore)⟩
  | handedOver _ _ _ _ _ _ hdone => simp [hwaiting] at hdone
  | woke _ _ _ hfirst hslot =>
      have hbefore : f.call.outcome? = none := by rwa [Call.outcome?, hslot] at hwaiting
      simp [hdue hbefore] at hfirst

end Transfer

/-! ### Books in order -/

/-- The books of a flight are **in order** after some actions: while there is no outcome, nobody
was woken and nobody is due; no two wakers on the roll would wake the same task; and all of them
have polled. -/
structure InOrder (actions : List (Action ω)) (effects : List (Effect ω)) (f : Flight ω α) :
    Prop where
  quiet : f.call.outcome? = none → wakes effects = [] ∧ f.due = []
  distinct : (f.roll effects).Pairwise fun waker other => (waker == other) = false
  polled : ∀ waker ∈ f.roll effects, .poll waker ∈ actions

/-- The books of a new call are in order. -/
theorem inOrder_new : InOrder [] [] ({} : Flight ω α) :=
  ⟨fun _ => ⟨rfl, rfl⟩, List.Pairwise.nil, List.forall_mem_nil _⟩

namespace InOrder

/-- While there is no outcome, the roll is the list. -/
theorem roll_of_waiting (h : InOrder actions effects f) (hwaiting : f.call.outcome? = none) :
    f.roll effects = f.call.wakers := by
  obtain ⟨hquiet, hdue⟩ := h.quiet hwaiting
  rw [roll, hquiet, hdue, List.nil_append, List.nil_append]

/-- A step keeps the books in order. -/
theorem step (h : InOrder actions effects f) (hstep : Step convert f a g new) :
    InOrder (actions ++ [a]) (effects ++ new) g := by
  have hquiet : g.call.outcome? = none → wakes (effects ++ new) = [] ∧ g.due = [] := by
    intro hwaiting
    obtain ⟨hbefore, hnew, hdue⟩ := hstep.transfer.of_waiting (fun hnone => (h.quiet hnone).2)
      hwaiting
    exact ⟨by rw [wakes_append, (h.quiet hbefore).1, hnew, List.append_nil], hdue⟩
  obtain hsame | ⟨waker, rfl, hwaiting, hnew, hmore⟩ := hstep.transfer.roll_eq effects
  · refine ⟨hquiet, ?_, fun listed hmem => ?_⟩
    · rw [hsame]
      exact h.distinct
    · rw [hsame] at hmem
      exact List.mem_append_left _ (h.polled listed hmem)
  · refine ⟨hquiet, ?_, fun listed hmem => ?_⟩
    · rw [hmore]
      refine List.pairwise_append.mpr ⟨h.distinct, List.pairwise_singleton _ _, ?_⟩
      intro listed hlisted other hother
      rw [h.roll_of_waiting hwaiting] at hlisted
      rw [List.mem_singleton.mp hother]
      simpa using List.any_eq_false.mp hnew listed hlisted
    · rw [hmore] at hmem
      rcases List.mem_append.mp hmem with hpast | hlast
      · exact List.mem_append_left _ (h.polled listed hpast)
      · rw [List.mem_singleton.mp hlast]
        exact List.mem_concat_self

/-- A run keeps the books in order. -/
theorem run (h : InOrder actions effects f) (hrun : f.run? convert later = some (g, new)) :
    InOrder (actions ++ later) (effects ++ new) g :=
  run?_induction (P := InOrder) (fun h hstep => h.step hstep) actions effects h hrun

end InOrder

/-- A run only adds to the roll, at its end. -/
theorem roll_prefix_of_run? (hrun : f.run? convert later = some (g, new))
    (effects : List (Effect ω)) : f.roll effects <+: g.roll (effects ++ new) :=
  run?_induction (P := fun _ told g => f.roll effects <+: g.roll told)
    (fun h hstep => h.trans (hstep.transfer.roll_prefix _)) [] effects List.prefix_rfl hrun

/-- Once there is an outcome, a run leaves the slot as it is, and wakes those who are due, in
order, and nobody else. -/
theorem wakes_append_due_of_run? {outcome : CallOutcome α}
    (hdone : f.call.outcome? = some outcome) (hrun : f.run? convert later = some (g, new)) :
    g.call.slot = f.call.slot ∧ wakes new ++ g.due = f.due := by
  refine run?_induction
    (P := fun _ told g => g.call.slot = f.call.slot ∧ wakes told ++ g.due = f.due)
    (fun h hstep => ?_) [] [] ⟨rfl, rfl⟩ hrun
  obtain ⟨hslot, hdue⟩ := h
  obtain ⟨hstill, hnew⟩ := hstep.transfer.of_done (by rw [Call.outcome?, hslot]; exact hdone)
  exact ⟨hstill.trans hslot, by rw [wakes_append, List.append_assoc, hnew, hdue]⟩

/-! ### Wakers that would wake the same task -/

/-- A task has **one waker** among wakers that wake different tasks, if it has any. -/
theorem filter_eq_singleton [PartialEquivBEq ω] {wakers : List ω} {listed waker : ω}
    (hdistinct : wakers.Pairwise fun waker other => (waker == other) = false)
    (hmem : listed ∈ wakers) (hsame : (listed == waker) = true) :
    wakers.filter (· == waker) = [listed] := by
  obtain ⟨before, after, rfl⟩ := List.append_of_mem hmem
  obtain ⟨-, hlisted, hbefore⟩ := List.pairwise_append.mp hdistinct
  have hnone (other : ω) (hother : other ∈ before ∨ other ∈ after) : ¬ (other == waker) = true := by
    intro hwaker
    have hboth : (other == listed) = true := BEq.trans hwaker (BEq.symm hsame)
    rcases hother with hother | hother
    · rw [hbefore other hother listed List.mem_cons_self] at hboth
      cases hboth
    · rw [BEq.comm, (List.pairwise_cons.mp hlisted).1 other hother] at hboth
      cases hboth
  rw [List.filter_append, List.filter_cons, if_pos hsame,
    List.filter_eq_nil_iff.mpr fun other hother => hnone other (.inl hother),
    List.filter_eq_nil_iff.mpr fun other hother => hnone other (.inr hother), List.nil_append]

/-- A task that polled and found no outcome has a waker on the list. -/
theorem exists_listed_of_poll [ReflBEq ω] {c : Call ω α} (waker : ω)
    (hwaiting : c.outcome? = none) :
    ∃ listed ∈ (c.poll waker).call.wakers, (listed == waker) = true := by
  cases hslot : c.slot with
  | done outcome => simp [Call.outcome?, hslot] at hwaiting
  | waiting wakers =>
      cases hany : wakers.any (· == waker) with
      | true =>
          obtain ⟨listed, hmem, hsame⟩ := List.any_eq_true.mp hany
          refine ⟨listed, ?_, hsame⟩
          simpa [Call.poll, hslot, hany, Call.wakers] using hmem
      | false =>
          refine ⟨waker, ?_, BEq.rfl⟩
          simp [Call.poll, hslot, hany, Call.wakers]

/-- A task that polled and found no outcome has **one waker** on the roll from then on. -/
theorem InOrder.one_of_poll [EquivBEq ω] {waker : ω} (h : InOrder actions effects f)
    (hwaiting : f.call.outcome? = none)
    (hrun : f.run? convert (.poll waker :: later) = some (g, new)) :
    ∃ listed, (g.roll (effects ++ new)).filter (· == waker) = [listed] := by
  have hg := h.run hrun
  rw [run?_eq_interleaving] at hrun
  obtain ⟨polled, first, rest, hpoll, hlater, rfl⟩ := Interleaving.run?_cons.mp hrun
  obtain ⟨rfl, rfl⟩ := Prod.mk.inj (Option.some.inj hpoll)
  rw [← run?_eq_interleaving] at hlater
  obtain ⟨listed, hlisted, hsame⟩ := exists_listed_of_poll waker hwaiting
  rw [← List.append_assoc] at hg ⊢
  -- Whoever is on the list is on the roll, and stays there.
  have hmem := (roll_prefix_of_run? hlater (effects ++ (f.call.poll waker).effects)).subset
    (List.mem_append_right _ (List.mem_append_right _ hlisted))
  exact ⟨listed, filter_eq_singleton hg.distinct hmem hsame⟩

/-! ### Every run -/

/-- **No wake-up is lost or repeated.** No two wakers on the list would wake the same task, and
whoever is on the list, is due or was woken has polled. A task that polled and found no outcome has
one waker on the list until the call is settled, and that one is due from then on and woken once.
While there is no outcome nobody is woken; the section that writes it wakes nobody itself, and
makes due just those who are on the list. Once there is an outcome, those who are due can be woken
one after the other before the owner lock is given back, and nothing else wakes anybody or puts
anybody on the list; whoever is woken finds the outcome at the next poll. -/
theorem wakeups_of_run? [EquivBEq ω]
    (hrun : ({} : Flight ω α).run? convert actions = some (f, effects)) :
    (f.call.wakers.Pairwise fun waker other => (waker == other) = false) ∧
    (∀ waker ∈ wakes effects ++ (f.due ++ f.call.wakers), .poll waker ∈ actions) ∧
    (∀ waker later g new, (f.call.poll waker).value = none →
      f.run? convert (.poll waker :: later) = some (g, new) →
        ∃ listed,
          (g.call.outcome? = none → g.call.wakers.filter (· == waker) = [listed]) ∧
          (g.call.outcome? ≠ none → (wakes new ++ g.due).filter (· == waker) = [listed])) ∧
    (f.call.outcome? = none → wakes effects = [] ∧ f.due = [] ∧
      ∀ g new, f.step? convert .settle = some (g, new) →
        wakes new = [] ∧ g.due = f.call.wakers ∧ g.call.outcome? ≠ none) ∧
    (∀ outcome, f.call.outcome? = some outcome →
      (∀ waker rest, f.due = waker :: rest → f.step? convert .release = none ∧
        ∃ g, f.step? convert .wake = some (g, [.wake waker]) ∧ g.due = rest) ∧
      (∀ a g new, a ≠ .wake → f.step? convert a = some (g, new) →
        wakes new = [] ∧ g.due = f.due ∧ g.call.slot = f.call.slot) ∧
      ∀ later g new, f.run? convert later = some (g, new) →
        g.call.slot = f.call.slot ∧ wakes new ++ g.due = f.due ∧ (g.lock = none → g.due = []) ∧
          ∀ waker, (g.call.poll waker).value = some outcome) := by
  have hf : InOrder actions effects f := inOrder_new.run hrun
  refine ⟨?_, hf.polled, fun waker later g new hpending hlater => ?_, fun hwaiting => ?_,
    fun outcome hdone => ⟨fun waker rest hdue => ?_, fun a g new hother hstep => ?_,
      fun later g new hlater => ?_⟩⟩
  · have hroll := hf.distinct
    rw [roll, ← List.append_assoc] at hroll
    exact (List.pairwise_append.mp hroll).2.1
  · rw [Call.poll_value] at hpending
    obtain ⟨listed, hone⟩ := hf.one_of_poll hpending hlater
    have hg := hf.run hlater
    refine ⟨listed, fun hwaiting => ?_, fun hdone => ?_⟩
    · rwa [hg.roll_of_waiting hwaiting] at hone
    · obtain ⟨outcome, hdone⟩ := Option.ne_none_iff_exists'.mp hdone
      rwa [roll, wakes_append, (hf.quiet hpending).1, List.nil_append,
        Call.wakers_of_outcome? hdone, List.append_nil] at hone
  · obtain ⟨hquiet, hdue⟩ := hf.quiet hwaiting
    exact ⟨hquiet, hdue, fun g new hstep => (step_of_step? hstep).due_of_settle hwaiting⟩
  · obtain ⟨⟨g, hwake, hrest⟩, hrelease⟩ := wake?_of_due hdue
    exact ⟨hrelease, g, hwake, hrest⟩
  · exact (step_of_step? hstep).transfer.of_ne_wake hother hdone
  · obtain ⟨hslot, hdue⟩ := wakes_append_due_of_run? hdone hlater
    refine ⟨hslot, hdue, due_of_free, fun waker => ?_⟩
    rw [Call.poll_value, Call.outcome?, hslot]
    exact hdone

/-- A **waker of a task**, which may have several. -/
structure TaskWaker where
  task : Nat
  serial : Nat
deriving Repr

/-- Two wakers of one task would wake the same task. -/
instance : BEq TaskWaker := ⟨fun waker other => waker.task == other.task⟩

instance : EquivBEq TaskWaker where
  rfl {waker} := beq_self_eq_true waker.task
  symm {waker other} (h : (waker.task == other.task) = true) := (BEq.symm h :)
  trans {waker other _} (h : (waker.task == other.task) = true) h' := (BEq.trans h h' :)

/-- A task polls a call that a worker is running. -/
def pendingActions : List (Action TaskWaker) :=
  [.claim ⟨7⟩, .poll ⟨1, 0⟩, .invoke]

/-- Another task polls twice with wakers of its own, once more when the slot is written, and the
call is cancelled in vain. -/
def rousingActions : List (Action TaskWaker) :=
  [.poll ⟨1, 2⟩, .finish (.failed .noExecutor), .poll ⟨2, 3⟩, .settle, .poll ⟨2, 4⟩, .wake, .wake,
    .release, .cancel false true, .settle, .release, .read 0]

/-- The other task is woken once, with the first of its wakers. -/
theorem roused_rousingActions :
    ∃ f effects g new,
      ({} : Flight TaskWaker Json).run? Response.node pendingActions = some (f, effects) ∧
        f.run? Response.node (.poll ⟨2, 1⟩ :: rousingActions) = some (g, new) ∧
        ∃ listed, (wakes new).filter (· == ⟨2, 1⟩) = [listed] := by
  obtain ⟨f, effects, g, new, hrun, hpending, hlater, hdone, hnone⟩ : ∃ f effects g new,
      ({} : Flight TaskWaker Json).run? Response.node pendingActions = some (f, effects) ∧
        (f.call.poll ⟨2, 1⟩).value = none ∧
        f.run? Response.node (.poll ⟨2, 1⟩ :: rousingActions) = some (g, new) ∧
        g.call.outcome? = some (.failed .noExecutor) ∧ g.due = [] :=
    ⟨_, _, _, _, rfl, rfl, rfl, rfl, rfl⟩
  obtain ⟨-, -, honce, -⟩ := wakeups_of_run? hrun
  obtain ⟨listed, -, hwoken⟩ := honce ⟨2, 1⟩ rousingActions g new hpending hlater
  have hone := hwoken (by simp [hdone])
  rw [hnone, List.append_nil] at hone
  exact ⟨f, effects, g, new, hrun, hlater, listed, hone⟩

end Flight

end CallGate

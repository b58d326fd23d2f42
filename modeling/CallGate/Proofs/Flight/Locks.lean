import CallGate.Proofs.Flight.Step

/-!
# The Order of the Locks

A call has two locks, and whoever takes both takes the owner lock first. The effects of a run say
which locks were taken and given back on the way, and which wakers were woken. `LockOrder` says of
them that the owner lock is only taken while no lock is held, the slot lock only alone or inside the
owner lock, and that nobody is woken while the slot lock is held.

`locksAfter?` is the same as an automaton, which takes the effects one by one and stops at the first
that is out of order; this is the form in which an induction over a run can use it.

The effects of all parties stand in one list, so this says more than an order for each of them:
nobody takes the owner lock or wakes anybody while the slot lock is held, by whomever it may be.

## Main results

* `lockOrder_of_locksAfter?`: effects that the automaton takes are in order.
* `Flight.Step.locksAfter?_eq`: the automaton takes the effects of every step, and finds the owner
  lock held after it exactly if somebody has it.
-/

namespace CallGate

variable {ω α : Type}

/-- The locks that are held after an effect, the one taken last in front; nothing if the effect is
**out of order**. The lock that was taken last is the first to be given back. -/
def Effect.locksAfter? : List Lock → Effect ω → Option (List Lock)
  | [], acquire lock => some [lock]
  | [.owner], acquire .slot => some [.slot, .owner]
  | _, acquire _ => none
  | lock :: held, release released => if lock = released then some held else none
  | [], release _ => none
  | held, wake _ => if .slot ∈ held then none else some held
  | held, log _ | held, raise _ | held, notifyVacated | held, notifySettled | held, invoke _ =>
    some held

/-- The locks that are held after some effects; nothing if one of them is out of order. -/
def locksAfter? (held : List Lock) (effects : List (Effect ω)) : Option (List Lock) :=
  effects.foldlM Effect.locksAfter? held

/-- The locks were taken **in order**, and wakers were woken outside the slot lock. -/
structure LockOrder (effects : List (Effect ω)) : Prop where
  /-- A lock was taken while no lock was held, or it is the slot lock inside the owner lock. -/
  taken : ∀ before lock after, effects = before ++ .acquire lock :: after →
    locksAfter? [] before = some [] ∨ lock = .slot ∧ locksAfter? [] before = some [.owner]
  /-- A waker was woken while the slot lock was not held. -/
  woken : ∀ before waker after, effects = before ++ .wake waker :: after →
    ∃ held, locksAfter? [] before = some held ∧ .slot ∉ held

/-! ### The automaton -/

variable {held last : List Lock} {lock : Lock} {waker : ω} {effects new : List (Effect ω)}

/-- A lock can be taken while no lock is held, and the slot lock inside the owner lock. -/
theorem Effect.of_locksAfter?_acquire
    (h : (acquire lock : Effect ω).locksAfter? held = some last) :
    held = [] ∨ lock = .slot ∧ held = [.owner] := by
  unfold locksAfter? at h
  split at h <;> simp_all

/-- A waker can be woken while the slot lock is not held. -/
theorem Effect.of_locksAfter?_wake (h : (wake waker).locksAfter? held = some last) :
    .slot ∉ held := by
  intro hslot
  simp [locksAfter?, hslot] at h

/-- Effects one after the other are taken if some are, and then the others. -/
theorem locksAfter?_append :
    locksAfter? held (effects ++ new) =
      (locksAfter? held effects).bind fun between => locksAfter? between new :=
  List.foldlM_append

/-- Each of the effects that are taken is taken after those before it. -/
theorem exists_of_locksAfter? {before after : List (Effect ω)} {effect : Effect ω}
    (h : locksAfter? held (before ++ effect :: after) = some last) :
    ∃ between next, locksAfter? held before = some between ∧
      effect.locksAfter? between = some next := by
  rw [locksAfter?_append] at h
  obtain ⟨between, hbefore, hrest⟩ := Option.bind_eq_some_iff.mp h
  obtain ⟨next, hnext, -⟩ := Option.bind_eq_some_iff.mp hrest
  exact ⟨between, next, hbefore, hnext⟩

/-- Effects that are taken are **in order**. -/
theorem lockOrder_of_locksAfter? (h : locksAfter? [] effects = some last) :
    LockOrder effects where
  taken before lock after heffects := by
    rw [heffects] at h
    obtain ⟨between, next, hbefore, hnext⟩ := exists_of_locksAfter? h
    obtain rfl | ⟨rfl, rfl⟩ := Effect.of_locksAfter?_acquire hnext
    · exact .inl hbefore
    · exact .inr ⟨rfl, hbefore⟩
  woken before waker after heffects := by
    rw [heffects] at h
    obtain ⟨between, next, hbefore, hnext⟩ := exists_of_locksAfter? h
    exact ⟨between, hbefore, Effect.of_locksAfter?_wake hnext⟩

/-! ### The locks of a flight -/

/-- The locks that are held between two actions: the owner lock, while somebody has it. -/
def locksOf : Option (Tenure ω α) → List Lock
  | none => []
  | some _ => [.owner]

/-- A section that takes the slot lock only is in order wherever it may come. -/
theorem locksAfter?_slot (tenure : Option (Tenure ω α)) :
    locksAfter? (locksOf tenure) [(.acquire .slot : Effect ω), .release .slot] =
      some (locksOf tenure) := by
  cases tenure <;> rfl

/-- **One step** keeps the locks in order. -/
theorem Flight.Step.locksAfter?_eq [BEq ω] {convert : Response → α} {f g : Flight ω α}
    {a : Action ω} (hstep : Step convert f a g new) :
    locksAfter? (locksOf f.lock) new = some (locksOf g.lock) := by
  cases hstep with
  | claimed hfree | refused hfree | finished hfree | discarded hfree | rejected hfree
  | departed hfree | preempted hfree | stayed hfree | resumed hfree =>
      rw [hfree]
      rfl
  | @displacing _ interrupt _ hfree =>
      rw [hfree]
      cases interrupt <;> rfl
  | @joined _ interrupt raised _ hfree =>
      rw [hfree]
      cases interrupt <;> cases raised <;> rfl
  | settled hlock | ignored hlock | woke hlock | vacated hlock | letGo hlock | released hlock =>
      rw [hlock]
      rfl
  | invoked => cases f.lock <;> rfl
  | answered | polled | looked => exact locksAfter?_slot f.lock

end CallGate

import CallGate.Call.Crowd
import CallGate.Proofs.Flight.Locks
import CallGate.Proofs.Flight.Standing

/-!
# The Owner and the Slot

The owner of a call only moves forward, from one stage (`Stage`) to a later one: a claim makes the
worker its owner, a cancel takes the worker's place, and whoever is done vacates it. The slot is
written after the last of these moves, or before it by the worker that publishes and keeps the
owner lock until it has vacated the call. So wherever the owner lock is free, a call with an
outcome is vacated.

None of this depends on how many tasks a call has and when they are run or dropped, so it is shown
of crowds. What every step keeps is `Crowd.Coupled`, which knows nothing of tasks: besides the law
itself it says that a lock in other hands than the worker's is that of a vacated call, and that
nobody is parked on a call that has not been claimed and taken over.

## Main results

* `Flight.Step.stage`: one step of any flight leaves the owner at its stage or moves it forward.
* `Crowd.Coupled.step`: one step keeps owner and slot coupled.
* `Crowd.run?_crowd`: a flight is a crowd of one task.
* `Crowd.coupling_of_run?`: what holds of owner, slot and locks after every run of a crowd.
-/

namespace CallGate

variable {ω α : Type}

/-! ### Stages -/

/-- The **stages** of an owner, in order. -/
inductive Stage where
  | unclaimed
  | worker
  | canceller
  | vacated
deriving DecidableEq, Repr

/-- The place of a stage in the order. -/
def Stage.rank : Stage → Nat
  | unclaimed => 0
  | worker => 1
  | canceller => 2
  | vacated => 3

instance : LE Stage := ⟨fun s t => s.rank ≤ t.rank⟩

instance : LT Stage := ⟨fun s t => s.rank < t.rank⟩

/-- The stage of an owner. -/
def Owner.stage : Owner → Stage
  | unclaimed => .unclaimed
  | worker _ => .worker
  | canceller _ _ => .canceller
  | vacated => .vacated

namespace Stage

/-- One stage **leads** to another. -/
inductive Leads : Stage → Stage → Prop
  | claimed : Leads unclaimed worker
  | displaced : Leads worker canceller
  | left {s : Stage} : s ≠ vacated → Leads s vacated

variable {s t : Stage}

/-- A stage leads forward. -/
theorem Leads.lt (h : Leads s t) : s < t := by
  cases h with
  | claimed | displaced => exact Nat.lt_succ_self _
  | left hs =>
      show s.rank < 3
      cases s with
      | vacated => exact absurd rfl hs
      | _ => decide

/-- Only the worker's stage leads to a canceller's. -/
theorem Leads.eq_worker (h : Leads s .canceller) : s = .worker := by
  cases h with
  | displaced => rfl

/-- From any stage the call can be vacated, if it is not vacated already. -/
theorem vacated_eq_or_leads (s : Stage) : vacated = s ∨ Leads s vacated := by
  cases s with
  | vacated => exact .inl rfl
  | _ => exact .inr (.left nofun)

end Stage

namespace Flight

variable [BEq ω] {convert : Response → α} {f g : Flight ω α} {a : Action ω}
  {new : List (Effect ω)}

/-- **One step** leaves the owner at its stage, or its stage leads to the next one. -/
theorem Step.stage (hstep : Step convert f a g new) :
    g.call.owner.stage = f.call.owner.stage ∨
      f.call.owner.stage.Leads g.call.owner.stage := by
  cases hstep with
  | claimed _ _ howner =>
      rw [howner]
      exact .inr .claimed
  | displacing _ _ howner =>
      rw [howner]
      exact .inr .displaced
  | joined _ _ howner =>
      rw [howner]
      exact .inl rfl
  | discarded | rejected | preempted | vacated => exact Stage.vacated_eq_or_leads _
  | polled => exact .inl (by rw [Call.poll_owner])
  | _ => exact .inl rfl

end Flight

/-! ### What a step keeps -/

namespace Crowd

/-- Owner and slot are **coupled**. -/
structure Coupled (call : Call ω α) (lock : Option (Tenure ω α)) (cancels : List Cancel) :
    Prop where
  /-- Where the owner lock is free, a call that has an outcome is vacated. -/
  free : lock = none → ∀ outcome, call.outcome? = some outcome → call.owner = .vacated
  /-- Whoever holds the owner lock of a call that is not vacated is the worker. -/
  held : ∀ party duty, lock = some ⟨party, duty⟩ → call.owner = .vacated ∨ party = .worker
  /-- Whoever is parked has displaced the worker or joined a cancel that did. -/
  parked : ∀ c ∈ cancels, ∀ notified, c.phase = .parked notified →
    (∃ flag raised, call.owner = .canceller flag raised) ∨ call.owner = .vacated

namespace Coupled

variable {call : Call ω α} {lock : Option (Tenure ω α)} {cancels : List Cancel}

/-- A new call is coupled. -/
theorem new : Coupled ({} : Call ω α) none [] where
  free _ _ hdone := by cases hdone
  held _ _ hlock := by cases hlock
  parked _ hc := by cases hc

/-- A vacated call is coupled, whoever holds its lock. -/
theorem of_vacated (howner : call.owner = .vacated) : Coupled call lock cancels where
  free _ _ _ := howner
  held _ _ _ := .inl howner
  parked _ _ _ _ := .inr howner

/-- A call that a canceller owns is coupled while it has no outcome and nobody holds its lock. -/
theorem of_canceller {flag : Interrupt} {raised : Bool}
    (howner : call.owner = .canceller flag raised) (hwaiting : call.outcome? = none) :
    Coupled call none cancels where
  free _ outcome hdone := by simp [hwaiting] at hdone
  held _ _ hlock := by cases hlock
  parked _ _ _ _ := .inl ⟨flag, raised, howner⟩

/-- Where the owner lock is free, a call that is not vacated has no outcome. -/
theorem waiting (h : Coupled call lock cancels) (hfree : lock = none)
    (howner : call.owner ≠ .vacated) : call.outcome? = none := by
  cases hdone : call.outcome? with
  | none => rfl
  | some outcome => exact absurd (h.free hfree outcome hdone) howner

/-- While the same party holds the owner lock, it does not matter what it does to the slot. -/
theorem of_held {next : Call ω α} {party : Party} {duty later : Duty ω α}
    (h : Coupled call (some ⟨party, duty⟩) cancels) (hnext : next.owner = call.owner) :
    Coupled next (some ⟨party, later⟩) cancels where
  free hfree := by cases hfree
  held holder _ hheld := by
    obtain ⟨rfl, -⟩ := Tenure.mk.inj (Option.some.inj hheld)
    exact hnext ▸ h.held party duty rfl
  parked := hnext ▸ h.parked

/-- Whoever gives the owner lock back without vacating the call leaves it vacated. -/
theorem vacated_of_held {party : Party} {duty : Duty ω α}
    (h : Coupled call (some ⟨party, duty⟩) cancels) (hparty : party ≠ .worker) :
    call.owner = .vacated :=
  (h.held party duty rfl).resolve_right hparty

/-- **One step** of any flight keeps owner and slot coupled. -/
theorem step [BEq ω] {convert : Response → α} {f g : Flight ω α} {a : Action ω}
    {new : List (Effect ω)} (h : Coupled f.call f.lock f.cancels)
    (hstep : Flight.Step convert f a g new) : Coupled g.call g.lock g.cancels := by
  cases hstep with
  | refused | invoked | looked => exact h
  | departed hfree => exact hfree ▸ h
  | discarded | rejected | preempted | vacated => exact of_vacated rfl
  | claimed hfree _ howner =>
      -- Before the claim nobody is parked and there is no outcome, which the claim leaves so.
      refine ⟨fun _ outcome hdone => ?_, by simp [hfree], fun c hc notified hphase => ?_⟩
      · exact absurd (h.free hfree outcome hdone) (by simp [howner])
      · exact absurd (h.parked c hc notified hphase) (by simp [howner])
  | finished _ _ _ howner =>
      refine ⟨nofun, fun party duty hheld => .inr ?_, h.parked⟩
      exact (Tenure.mk.inj (Option.some.inj hheld)).1.symm
  | displacing hfree _ howner | joined hfree _ howner =>
      exact of_canceller rfl (h.waiting hfree (by simp [howner]))
  | stayed hfree _ howner => exact of_canceller howner (h.waiting hfree (by simp [howner]))
  | resumed _ hcancel hother =>
      have hparked := h.parked _ (List.mem_of_getElem? hcancel) true rfl
      refine of_vacated (hparked.resolve_left ?_)
      rintro ⟨flag, raised, howner⟩
      exact hother flag raised howner
  | settled hlock | ignored hlock | woke hlock => exact (hlock ▸ h).of_held rfl
  | letGo hlock | released hlock => exact of_vacated ((hlock ▸ h).vacated_of_held nofun)
  | answered =>
      exact ⟨h.free, h.held, forall_mem_set h.parked fun _ hphase => by cases hphase⟩
  | polled =>
      exact ⟨by simpa using h.free, by simpa using h.held, by simpa using h.parked⟩

end Coupled

/-! ### Steps and runs of a crowd -/

variable [BEq ω] {convert : Response → α} {c next : Crowd ω α} {m : Move ω}
  {moves : List (Move ω)} {effects new : List (Effect ω)}

/-- **One step**, as computed, is a step of the flight with one of the tasks. -/
theorem step_of_step? (h : c.step? convert m = some (next, new)) :
    ∃ task f, Flight.Step convert (c.flight task) m.action f new ∧
      next = c.withFlight m.position f := by
  obtain ⟨task, -, hstep⟩ := Option.bind_eq_some_iff.mp h
  obtain ⟨⟨f, effects⟩, hf, hr⟩ := Option.map_eq_some_iff.mp hstep
  obtain ⟨rfl, rfl⟩ := Prod.mk.inj hr
  exact ⟨task, f, Flight.step_of_step? hf, rfl⟩

/-- A step leaves the owner at its stage, or its stage leads to the next one. -/
theorem stage_of_step? (h : c.step? convert m = some (next, new)) :
    next.call.owner.stage = c.call.owner.stage ∨
      c.call.owner.stage.Leads next.call.owner.stage := by
  obtain ⟨task, f, hstep, rfl⟩ := step_of_step? h
  exact hstep.stage

/-- Owner and slot are coupled after every run, and the effects were in order. -/
theorem coupled_of_run? {tasks : Nat}
    (hrun : (queued tasks : Crowd ω α).run? convert moves = some (c, effects)) :
    Coupled c.call c.lock c.cancels ∧ locksAfter? [] effects = some (locksOf c.lock) :=
  Interleaving.run?_induction
    (P := fun _ told c =>
      Coupled c.call c.lock c.cancels ∧ locksAfter? [] told = some (locksOf c.lock))
    (fun hbefore hm => by
      obtain ⟨hcoupled, horder⟩ := hbefore
      obtain ⟨task, f, hstep, rfl⟩ := step_of_step? hm
      refine ⟨hcoupled.step hstep, ?_⟩
      rw [locksAfter?_append, horder]
      exact hstep.locksAfter?_eq)
    [] [] ⟨.new, rfl⟩ hrun

/-- A run of a **flight** is a run of the crowd of its one task. -/
theorem run?_crowd (f : Flight ω α) (actions : List (Action ω)) :
    f.crowd.run? convert (actions.map (Move.mk 0)) =
      (f.run? convert actions).map fun r => (r.1.crowd, r.2) := by
  induction actions generalizing f with
  | nil => rfl
  | cons a rest ih =>
      have hstep : f.crowd.step? convert ⟨0, a⟩ =
          (f.step? convert a).map fun r => (r.1.crowd, r.2) := rfl
      rw [List.map_cons, run?, Interleaving.run?, hstep, Flight.run?]
      cases f.step? convert a with
      | none => rfl
      | some r =>
          have hrest := ih r.1
          rw [run?] at hrest
          simp only [Option.map_some, hrest, Option.map_map]
          rfl

/-! ### The stages of a run -/

/-- The stages that the owner **enters** on a run, in order. -/
def entered (convert : Response → α) (c : Crowd ω α) : List (Move ω) → List Stage
  | [] => []
  | m :: rest =>
    match c.step? convert m with
    | none => []
    | some (next, _) =>
      if next.call.owner.stage = c.call.owner.stage then next.entered convert rest
      else next.call.owner.stage :: next.entered convert rest

/-- Every stage that is entered is later than those before it. -/
theorem pairwise_entered (c : Crowd ω α) (moves : List (Move ω)) :
    (c.call.owner.stage :: c.entered convert moves).Pairwise (· < ·) := by
  induction moves generalizing c with
  | nil => exact List.pairwise_singleton _ _
  | cons m rest ih =>
      rw [entered]
      split
      next => exact List.pairwise_singleton _ _
      next next new hstep =>
        have hrest := ih next
        split
        next hstage => exact hstage ▸ hrest
        next hstage =>
          have hlt := ((stage_of_step? hstep).resolve_left hstage).lt
          refine List.pairwise_cons.mpr ⟨List.forall_mem_cons.mpr ⟨hlt, fun s hs => ?_⟩, hrest⟩
          exact Nat.lt_trans hlt (List.rel_of_pairwise_cons hrest hs)

/-! ### Every run -/

/-- **Owner and slot.** After every run of a crowd, with any number of tasks: where the owner lock
is free, a call that has an outcome is vacated, and one that is not vacated waits. Every step
leaves the owner at its stage or moves it to a later one, to a canceller's only from a worker's, and
no stage is entered twice. On the way the slot lock was only taken alone or inside the owner lock,
and no waker was woken under it. -/
theorem coupling_of_run? {tasks : Nat}
    (hrun : (queued tasks : Crowd ω α).run? convert moves = some (c, effects)) :
    (c.lock = none →
      (∀ outcome, c.call.slot = .done outcome → c.call.owner = .vacated) ∧
      (c.call.owner ≠ .vacated → ∃ wakers, c.call.slot = .waiting wakers)) ∧
    (∀ m next new, c.step? convert m = some (next, new) →
      c.call.owner.stage ≤ next.call.owner.stage ∧
      (next.call.owner.stage = .canceller →
        c.call.owner.stage = .canceller ∨ c.call.owner.stage = .worker)) ∧
    ((queued tasks : Crowd ω α).entered convert moves).Nodup ∧
    LockOrder effects ∧ locksAfter? [] effects = some (locksOf c.lock) := by
  obtain ⟨hcoupled, horder⟩ := coupled_of_run? hrun
  refine ⟨fun hfree => ?_, fun m next new hstep => ?_, ?_, lockOrder_of_locksAfter? horder,
    horder⟩
  · have hvacated (outcome : CallOutcome α) (hdone : c.call.slot = .done outcome) :
        c.call.owner = .vacated :=
      hcoupled.free hfree outcome (by rw [Call.outcome?, hdone])
    refine ⟨hvacated, fun howner => ?_⟩
    cases hslot : c.call.slot with
    | waiting wakers => exact ⟨wakers, rfl⟩
    | done outcome => exact absurd (hvacated outcome hslot) howner
  · obtain hstage | hleads := stage_of_step? hstep
    · rw [hstage]
      exact ⟨Nat.le_refl _, .inl⟩
    · refine ⟨Nat.le_of_lt hleads.lt, fun hcanceller => .inr ?_⟩
      rw [hcanceller] at hleads
      exact hleads.eq_worker
  · refine (pairwise_entered (queued tasks) moves).tail.imp ?_
    rintro s _ hlt rfl
    exact Nat.lt_irrefl _ hlt

/-- A worker that publishes writes the slot before it vacates the call, and holds the owner lock. -/
example :
    ((queued 1 : Crowd Nat Json).run? Response.node
        [⟨0, .claim ⟨7⟩⟩, ⟨0, .invoke⟩, ⟨0, .finish (.failed .noExecutor)⟩, ⟨0, .settle⟩]).map
        (fun r => (r.1.call.owner, r.1.call.status, r.1.lock.isSome)) =
      some (.worker ⟨7⟩, .failed, true) :=
  rfl

/-- One worker claims the call. Another one comes too late, and a third task is dropped. -/
def claimingMoves : List (Move Nat) :=
  [⟨0, .claim ⟨7⟩⟩, ⟨1, .claim ⟨8⟩⟩, ⟨2, .abandon⟩]

/-- A quiet cancel displaces the worker and an insistent one joins it. The worker finishes, the late
task goes away, and the insistent cancel settles the call while the quiet one is still parked. -/
def settlingMoves : List (Move Nat) :=
  [⟨0, .cancel false false⟩, ⟨0, .poll 1⟩, ⟨0, .invoke⟩, ⟨0, .cancel false true⟩,
    ⟨0, .finish (.returned (.success .null))⟩, ⟨1, .abandon⟩, ⟨0, .resume 1⟩, ⟨0, .settle⟩,
    ⟨0, .wake⟩, ⟨0, .release⟩]

/-- The call waits while a worker owns it, a cancel takes the worker's place, and in the end the
call is vacated. -/
theorem coupled_settlingMoves :
    ∃ c next last effects new told,
      (queued 3 : Crowd Nat Json).run? Response.node claimingMoves = some (c, effects) ∧
        c.lock = none ∧ (∃ wakers, c.call.slot = .waiting wakers) ∧
        c.step? Response.node ⟨0, .cancel false false⟩ = some (next, new) ∧
        next.call.owner.stage = .canceller ∧ c.call.owner.stage = .worker ∧
        (queued 3 : Crowd Nat Json).run? Response.node (claimingMoves ++ settlingMoves) =
          some (last, told) ∧
        last.lock = none ∧ last.call.slot = .done .cancelled ∧ last.call.owner = .vacated ∧
        LockOrder told := by
  obtain ⟨c, next, last, effects, new, told, hrun, hfree, howner, hstep, hcanceller, hall, hlast,
      hdone⟩ : ∃ c next last effects new told,
      (queued 3 : Crowd Nat Json).run? Response.node claimingMoves = some (c, effects) ∧
        c.lock = none ∧ c.call.owner = .worker ⟨7⟩ ∧
        c.step? Response.node ⟨0, .cancel false false⟩ = some (next, new) ∧
        next.call.owner.stage = .canceller ∧
        (queued 3 : Crowd Nat Json).run? Response.node (claimingMoves ++ settlingMoves) =
          some (last, told) ∧
        last.lock = none ∧ last.call.slot = .done .cancelled :=
    ⟨_, _, _, _, _, _, rfl, rfl, rfl, rfl, rfl, rfl, rfl, rfl⟩
  obtain ⟨hcoupled, hforward, -⟩ := coupling_of_run? hrun
  obtain ⟨hsettled, -, -, horder, -⟩ := coupling_of_run? hall
  have hwaiting := (hcoupled hfree).2 (by simp [howner])
  have hworker := ((hforward _ next new hstep).2 hcanceller).resolve_left
    (by simp [howner, Owner.stage])
  exact ⟨c, next, last, effects, new, told, hrun, hfree, hwaiting, hstep, hcanceller, hworker, hall,
    hlast, hdone, (hsettled hlast).1 _ hdone, horder⟩

end Crowd

end CallGate

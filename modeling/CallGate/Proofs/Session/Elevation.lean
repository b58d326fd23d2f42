import CallGate.Proofs.Session.Calls

/-!
# Elevated Calls

The controller sees a call inside the trusted boundary exactly if the call was made through a
super-user client or by a caller that stood inside the boundary at that time. What a caller says
about itself is its own: no call changes it, neither at once nor when it runs, and no call that
runs later sees anything of another one's elevation.

A super-user client is an ordinary client that is called from inside the boundary, and nothing
else: a session goes the same way, with the same occurrences, if every call through a super-user
client is made through the ordinary one instead, by a trusted caller (`Move.delegated`).

## Main results

* `Session.callers_of_run?`: a caller keeps its context until it takes another one.
* `Session.delegated_of_run?`: a super-user client does what the ordinary one does for a trusted
  caller.
* `Session.elevation_of_run?`: what the controller sees of the boundary.
-/

namespace CallGate

variable {ω : Type}

/-! ### Super-user clients -/

/-- A client captures a caller inside the boundary, or elevates it if it is a super-user client. -/
theorem Client.contextFor_inside (client : Client) (caller : CallContext) :
    (client.contextFor caller).inside = true ↔ client.superUser = true ∨ caller.inside = true := by
  unfold contextFor
  split
  next helevated => simp [CallContext.elevated, helevated]
  next hordinary => simp [hordinary]

namespace Session

/-- The **delegated** move: a call through a super-user client is made through the ordinary one
instead, by another caller. -/
def Move.delegated (trusted : Nat) : Move ω → Move ω
  | .call ⟨true, hasExecutor⟩ _ operation handler =>
    .call ⟨false, hasExecutor⟩ trusted operation handler
  | .submit ⟨true, hasExecutor⟩ _ operation handler id shape =>
    .submit ⟨false, hasExecutor⟩ trusted operation handler id shape
  | m => m

variable [BEq ω] {s next last : Session ω} {m : Move ω} {new told : List (Occurrence ω)}
  {moves : List (Move ω)} {caller : Nat} {context : CallContext}

/-! ### The contexts of the callers -/

/-- A step leaves a caller's context as it is, unless that caller takes another one. -/
theorem Step.caller_eq (hstep : Step s m next new) (hcaller : s.callers[caller]? = some context)
    (hkept : ∀ other, m ≠ .change caller other) : next.callers[caller]? = some context := by
  cases hstep with
  | arrived =>
      obtain ⟨hlt, -⟩ := List.getElem?_eq_some_iff.mp hcaller
      rw [List.getElem?_append_left hlt, hcaller]
  | @changed changing other =>
      have hne : changing ≠ caller := by
        rintro rfl
        exact hkept other rfl
      rw [List.getElem?_set_ne hne, hcaller]
  | _ => exact hcaller

/-- **A caller keeps its context** until it takes another one. -/
theorem callers_of_run? (hrun : s.run? moves = some (last, told))
    (hcaller : s.callers[caller]? = some context)
    (hkept : ∀ other, Move.change caller other ∉ moves) :
    last.callers[caller]? = some context := by
  refine run?_induction
    (P := fun before _ s => (∀ other, Move.change caller other ∉ before) →
      s.callers[caller]? = some context) ?_ [] [] (fun _ => hcaller) hrun hkept
  intro before _ s m next new h hstep hkept
  refine hstep.caller_eq (h fun other hmem => ?_) fun other hm => ?_
  · exact hkept other (List.mem_append_left [m] hmem)
  · exact hkept other (hm ▸ List.mem_concat_self)

/-! ### Delegation -/

/-- A super-user client makes the steps that the ordinary one makes for a trusted caller. -/
theorem step?_delegated {trusted : Nat} (htrusted : s.callers[trusted]? = some .trusted)
    (hstep : s.step? m = some (next, new)) :
    s.step? (m.delegated trusted) = some (next, new) := by
  cases m with
  | call client caller operation handler =>
      obtain ⟨superUser, hasExecutor⟩ := client
      cases superUser with
      | false => exact hstep
      | true =>
          obtain ⟨context, -, hnext⟩ := Option.map_eq_some_iff.mp hstep
          rw [Move.delegated, step?, call?, htrusted, Option.map_some, ← hnext]
          rfl
  | submit client caller operation handler id shape =>
      obtain ⟨superUser, hasExecutor⟩ := client
      cases superUser with
      | false => exact hstep
      | true =>
          obtain ⟨context, -, hnext⟩ := Option.map_eq_some_iff.mp hstep
          rw [Move.delegated, step?, submit?, htrusted, Option.map_some, ← hnext]
          rfl
  | _ => exact hstep

/-- **A super-user client is an ordinary one that is called from inside**: a session goes the same
way if its calls through super-user clients are made through the ordinary client by a trusted
caller. -/
theorem delegated_of_run? {trusted : Nat} (hrun : s.run? moves = some (last, told))
    (htrusted : s.callers[trusted]? = some .trusted)
    (hkept : ∀ other, Move.change trusted other ∉ moves) :
    s.run? (moves.map (Move.delegated trusted)) = some (last, told) := by
  induction moves generalizing s told with
  | nil => exact hrun
  | cons m rest ih =>
      obtain ⟨next, first, later, hstep, hrest, rfl⟩ := Interleaving.run?_cons.mp hrun
      have hnext : next.callers[trusted]? = some .trusted :=
        (step_of_step? hstep).caller_eq htrusted fun other hm =>
          hkept other (hm ▸ List.mem_cons_self)
      have hlater := ih hrest hnext fun other hmem => hkept other (List.mem_cons_of_mem m hmem)
      exact Interleaving.run?_cons.mpr
        ⟨next, first, later, step?_delegated htrusted hstep, hlater, rfl⟩

/-! ### What the controller sees -/

/-- **Elevation is exact and does not leak**: in every session, the controller sees a call inside
the boundary exactly if it was made through a super-user client or its caller stood inside at that
time, whatever else is going on when the call runs. Callers keep their contexts until they take
others. Super-user clients do what the ordinary client does for a trusted caller, with the same
results and the same occurrences. -/
theorem elevation_of_run? {later : List (Move ω)} {future : List (Occurrence ω)}
    (hstep : s.step? m = some (next, new)) (hlater : next.run? later = some (last, future)) :
    (∀ call client context operation, s.Dispatches m call client context operation →
      ∀ invocation ∈ invocationsFor call (new ++ future),
        (invocation.context.inside = true ↔ client.superUser = true ∨ context.inside = true)) ∧
    (∀ caller context, s.callers[caller]? = some context →
      (∀ other, Move.change caller other ∉ m :: later) → last.callers[caller]? = some context) ∧
    (∀ trusted, s.callers[trusted]? = some .trusted →
      (∀ other, Move.change trusted other ∉ m :: later) →
      s.run? ((m :: later).map (Move.delegated trusted)) = some (last, new ++ future)) ∧
    (∀ (σ : Type) hasExecutor controller (supplier : Supplier σ) context operation interrupt request
      state,
      (⟨true, hasExecutor⟩ : Client).call controller supplier context operation interrupt request
          state =
        (⟨false, hasExecutor⟩ : Client).call controller supplier .trusted operation interrupt
          request state) := by
  have hrun : s.run? (m :: later) = some (last, new ++ future) :=
    Interleaving.run?_cons.mpr ⟨next, new, future, hstep, hlater, rfl⟩
  refine ⟨fun call client context operation hdispatch invocation hmem => ?_,
    fun caller context hcaller hkept => callers_of_run? hrun hcaller hkept,
    fun trusted htrusted hkept => delegated_of_run? hrun htrusted hkept,
    fun _ _ _ _ _ _ _ _ _ => rfl⟩
  have honce := invocationsFor_of_dispatch hdispatch hstep hlater
  obtain rfl := List.mem_singleton.mp (honce.subset hmem)
  rw [Dispatch.invocation, Dispatch.context_eq]
  exact client.contextFor_inside context

/-- A caller from outside and a trusted one arrive. -/
def gatheringMoves : List (Move Nat) :=
  [.arrive .external, .arrive .trusted, .establish ⟨⟨"alice"⟩, [], {}⟩]

/-- The caller from outside calls through a super-user client. -/
def elevatedMove : Move Nat := .submit ⟨true, true⟩ 0 ⟨.null, none⟩ .logging "elevated" .document

/-- It calls through an ordinary client as well, which runs first, and then the elevated call
runs. -/
def mixedMoves : List (Move Nat) :=
  [.submit ⟨false, true⟩ 0 ⟨.null, none⟩ .logging "ordinary" .document,
    .act 1 (.claim ⟨1⟩), .act 1 .invoke, .act 0 (.claim ⟨0⟩), .act 0 .invoke]

/-- Only the elevated call is seen inside; the caller stays outside. -/
theorem elevated_mixedMoves :
    ∃ s history next new last future elevated ordinary,
      ({} : Session Nat).run? gatheringMoves = some (s, history) ∧
        s.step? elevatedMove = some (next, new) ∧
        next.run? mixedMoves = some (last, future) ∧
        invocationsFor (.queued 0) (new ++ future) = [elevated] ∧
        invocationsFor (.queued 1) (new ++ future) = [ordinary] ∧
        elevated.context.inside = true ∧ ordinary.context.inside = false ∧
        last.callers[0]? = some .external ∧
        s.run? ((elevatedMove :: mixedMoves).map (Move.delegated 1)) =
          some (last, new ++ future) := by
  obtain ⟨s, history, next, new, last, future, elevated, ordinary, hrun, hstep, hlater, hcaller,
      htrusted, hposition, helevated, hordinary, hinside⟩ :
      ∃ s history next new last future elevated ordinary,
        ({} : Session Nat).run? gatheringMoves = some (s, history) ∧
          s.step? elevatedMove = some (next, new) ∧
          next.run? mixedMoves = some (last, future) ∧
          s.callers[0]? = some .external ∧ s.callers[1]? = some .trusted ∧ s.calls.length = 0 ∧
          invocationsFor (.queued 0) (new ++ future) = [elevated] ∧
          invocationsFor (.queued 1) (new ++ future) = [ordinary] ∧
          ordinary.context.inside = false :=
    ⟨_, _, _, _, _, _, _, _, rfl, rfl, rfl, rfl, rfl, rfl, rfl, rfl, rfl⟩
  obtain ⟨hsees, hkept, hdelegated, -⟩ := elevation_of_run? hstep hlater
  have hsees := hsees _ _ _ _ (.submit hcaller rfl)
  rw [hposition, helevated] at hsees
  have hinvoked := (hsees elevated (List.mem_singleton_self elevated)).mpr (.inl rfl)
  exact ⟨s, history, next, new, last, future, elevated, ordinary, hrun, hstep, hlater, helevated,
    hordinary, hinvoked, hinside, hkept 0 .external hcaller (by simp [elevatedMove, mixedMoves]),
    hdelegated 1 htrusted (by simp [elevatedMove, mixedMoves])⟩

end Session

end CallGate

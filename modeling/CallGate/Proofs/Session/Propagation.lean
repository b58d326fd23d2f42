import CallGate.Proofs.Session.Calls

/-!
# The Identity of a Call

The controller sees whoever was established when a call was dispatched, however much later the
call runs and whoever has been established or cleared in the meantime. Who is established is read
off the history of a session (`Established`): the last login that succeeded or the last identity
that was put in directly, if nothing was cleared after it, and nobody if there is no such
occurrence. The supplier is asked once, when the call is made, and a call that finds no executor
leaves the session as it is.

## Main results

* `Session.established_iff_held`: a session holds whoever its history leaves established.
* `Session.propagation_of_run?`: what the controller sees of a call that is dispatched.
-/

namespace CallGate

variable {ω : Type}

/-! ### Who is established -/

namespace Occurrence

/-- An occurrence **establishes** an identity, directly or by a login that succeeds. -/
inductive Establishes : Occurrence ω → Identity → Prop
  | directly {identity : Identity} : Establishes (.established identity) identity
  | byLogin {identity : Identity} : Establishes (.loggedIn (.ok identity)) identity

/-- An occurrence **clears** whoever is established. -/
inductive Clears : Occurrence ω → Prop
  | clear {identity : Option Identity} : Clears (.cleared identity)

/-- An occurrence **keeps** whoever is established, or nobody. -/
def Keeps : Occurrence ω → Prop
  | established _ | cleared _ | loggedIn (.ok _) => False
  | _ => True

variable {o : Occurrence ω}

/-- An occurrence that keeps whoever is established establishes nobody. -/
theorem Keeps.not_establishes (h : o.Keeps) (identity : Identity) : ¬ o.Establishes identity := by
  rintro (_ | _) <;> exact h

/-- An occurrence that keeps whoever is established does not clear. -/
theorem Keeps.not_clears (h : o.Keeps) : ¬ o.Clears := by
  rintro ⟨⟩
  exact h

/-- An occurrence establishes one identity at most. -/
theorem Establishes.unique {identity other : Identity} (h : o.Establishes identity)
    (hother : o.Establishes other) : identity = other := by
  cases h <;> cases hother <;> rfl

end Occurrence

/-- The identity that a history leaves **established**. -/
inductive Established : List (Occurrence ω) → Option Identity → Prop
  /-- Somebody was established last and not cleared since. -/
  | somebody {earlier later : List (Occurrence ω)} {o : Occurrence ω} {identity : Identity} :
      o.Establishes identity → (∀ p ∈ later, p.Keeps) →
      Established (earlier ++ o :: later) (some identity)
  /-- Whoever was established was cleared later. -/
  | nobody {history : List (Occurrence ω)} :
      (∀ earlier o later identity, history = earlier ++ o :: later → o.Establishes identity →
        ∃ p ∈ later, p.Clears) →
      Established history none

/-- What splits two histories in a row lies in the later one, or splits the earlier one. -/
theorem mem_or_split {α : Type} {l new earlier later : List α} {a : α}
    (h : l ++ new = earlier ++ a :: later) :
    a ∈ new ∨ ∃ rest, l = earlier ++ a :: rest ∧ later = rest ++ new := by
  obtain ⟨between, -, hnew⟩ | ⟨between, hl, hrest⟩ := List.append_eq_append_iff.mp h
  · exact .inl (by simp [hnew])
  · cases between with
    | nil =>
        rw [List.nil_append] at hrest
        exact .inl (by simp [← hrest])
    | cons first rest =>
        obtain ⟨rfl, hlater⟩ := List.cons.inj hrest
        exact .inr ⟨rest, hl, hlater⟩

namespace Established

variable {history new : List (Occurrence ω)} {held : Option Identity}

/-- At first nobody is established. -/
theorem nil : Established ([] : List (Occurrence ω)) none :=
  .nobody fun _ _ _ _ h => by simp at h

/-- Occurrences that keep whoever is established make no difference. -/
theorem append (h : Established history held) (hkeeps : ∀ p ∈ new, p.Keeps) :
    Established (history ++ new) held := by
  cases h with
  | somebody ho hlater =>
      rw [List.append_assoc, List.cons_append]
      exact .somebody ho fun p hp => (List.mem_append.mp hp).elim (hlater p) (hkeeps p)
  | nobody hcleared =>
      -- Whatever establishes somebody lies in the history, where its clear lies as well.
      refine .nobody fun earlier o later identity hsplit ho => ?_
      obtain hmem | ⟨rest, hhistory, rfl⟩ := mem_or_split hsplit
      · exact absurd ho ((hkeeps o hmem).not_establishes identity)
      · obtain ⟨p, hp, hclears⟩ := hcleared earlier o rest identity hhistory ho
        exact ⟨p, List.mem_append_left new hp, hclears⟩

/-- A clear leaves nobody established. -/
theorem clear {cleared : Option Identity} : Established (history ++ [.cleared cleared]) none := by
  refine .nobody fun earlier o later identity hsplit ho => ?_
  obtain hmem | ⟨rest, -, rfl⟩ := mem_or_split hsplit
  · obtain rfl := List.mem_singleton.mp hmem
    cases ho
  · exact ⟨_, List.mem_concat_self, .clear⟩

/-- A history leaves **one** identity established, or nobody. -/
theorem unique {others : Option Identity} (h : Established history held)
    (hothers : Established history others) : held = others := by
  cases h with
  | @somebody earlier later o identity ho hlater =>
      generalize hhistory : earlier ++ o :: later = history at hothers
      cases hothers with
      | somebody hother hafter =>
          obtain hmem | ⟨rest, -, rfl⟩ := mem_or_split hhistory
          · obtain rfl | hmem := List.mem_cons.mp hmem
            · rw [ho.unique hother]
            · exact absurd hother ((hlater _ hmem).not_establishes _)
          · have hmem : o ∈ rest ++ o :: later := List.mem_append_right rest List.mem_cons_self
            exact absurd ho ((hafter o hmem).not_establishes identity)
      | nobody hcleared =>
          obtain ⟨p, hp, hclears⟩ := hcleared earlier o later identity hhistory.symm ho
          exact absurd hclears (hlater p hp).not_clears
  | nobody hcleared =>
      cases hothers with
      | somebody ho hlater =>
          obtain ⟨p, hp, hclears⟩ := hcleared _ _ _ _ rfl ho
          exact absurd hclears (hlater p hp).not_clears
      | nobody => rfl

end Established

namespace Session

/-! ### What is captured -/

section Captured

variable (s : Session ω) (client : Client) (context : CallContext) (operation : Operation)

/-- Asking for an identity changes nothing that is held. -/
theorem captured_holder :
    (s.captured client context operation).2.holder = s.sourceState.holder := by
  unfold captured Client.capture
  cases s.source <;> rfl

/-- What is captured is whoever is held, unless everybody is anonymous. -/
theorem captured_identity (hsource : s.source ≠ .anonymous) :
    (s.captured client context operation).1.identity = s.sourceState.holder.current := by
  unfold captured Client.capture
  cases h : s.source with
  | counting | holder => rfl
  | anonymous => exact absurd h hsource

/-- Capturing asks once. -/
theorem captured_asked (hsource : s.source = .counting) :
    (s.captured client context operation).2.asked = s.sourceState.asked + 1 := by
  rw [captured, hsource]
  rfl

end Captured

/-- A call is not made before it is dispatched. -/
theorem Dispatches.not_made {s : Session ω} {m : Move ω} {call : CallName} {client : Client}
    {context : CallContext} {operation : Operation}
    (h : s.Dispatches m call client context operation) : ¬ s.Made call := by
  cases h <;> exact Nat.lt_irrefl _

variable [BEq ω] {s next last : Session ω} {m : Move ω} {history new : List (Occurrence ω)}

/-! ### What is held -/

/-- A step leaves those established whom the session holds. -/
theorem Step.established_holder (hstep : Step s m next new)
    (h : Established history s.sourceState.holder.current) :
    Established (history ++ new) next.sourceState.holder.current := by
  cases hstep with
  | established => exact .somebody .directly (by simp)
  | cleared => exact .clear
  | loggedIn =>
      rw [← List.append_assoc]
      exact .somebody .byLogin (by simp)
  | @called client _ context operation _ _ _ _ hcaptured
  | @accepted client _ context operation _ _ _ _ _ _ _ hcaptured =>
      have hholder := s.captured_holder client context operation
      rw [hcaptured] at hholder
      rw [← hholder] at h
      exact h.append (by simp [Occurrence.Keeps])
  | @acted _ _ ticket _ _ _ _ =>
      refine h.append (List.forall_mem_map.mpr fun effect _ => ?_)
      cases effect <;> trivial
  | _ => exact h.append (by simp [Occurrence.Keeps, or_imp, forall_and])

/-- A session **holds whoever its history leaves established**. -/
theorem established_iff_held {moves : List (Move ω)} {held : Option Identity}
    (hrun : ({} : Session ω).run? moves = some (s, history)) :
    Established history held ↔ s.sourceState.holder.current = held := by
  have hholder : Established history s.sourceState.holder.current :=
    run?_induction (P := fun _ past s => Established past s.sourceState.holder.current)
      (fun h hstep => hstep.established_holder h) [] [] .nil hrun
  constructor
  · exact hholder.unique
  · rintro rfl
    exact hholder

/-! ### When the supplier is asked -/

/-- A session that counts goes on counting. -/
theorem Step.source_eq (hstep : Step s m next new) : next.source = s.source := by
  cases hstep <;> rfl

/-- A counting supplier is **asked once** for a call that is dispatched, and never otherwise. -/
theorem Step.asked (hstep : Step s m next new) (hsource : s.source = .counting) :
    (∀ call client context operation, s.Dispatches m call client context operation →
      next.sourceState.asked = s.sourceState.asked + 1) ∧
    ((∀ call client context operation, ¬ s.Dispatches m call client context operation) →
      next.sourceState.asked = s.sourceState.asked) := by
  cases hstep with
  | @called client _ context operation _ _ _ hcaller hdispatch =>
      have hasked := s.captured_asked client context operation hsource
      rw [hdispatch] at hasked
      exact ⟨fun _ _ _ _ _ => hasked, fun hnone => absurd (.call hcaller) (hnone _ _ _ _)⟩
  | @accepted client _ context operation _ _ _ _ _ hcaller hexecutor hdispatch =>
      have hasked := s.captured_asked client context operation hsource
      rw [hdispatch] at hasked
      exact ⟨fun _ _ _ _ _ => hasked,
        fun hnone => absurd (.submit hcaller hexecutor) (hnone _ _ _ _)⟩
  | refused _ hnone =>
      refine ⟨fun _ _ _ _ hdispatch => ?_, fun _ => rfl⟩
      cases hdispatch with
      | submit _ hexecutor => rw [hexecutor] at hnone; cases hnone
  | _ => exact ⟨fun _ _ _ _ hdispatch => (nomatch hdispatch), fun _ => rfl⟩

/-- A new session goes on counting. -/
theorem counting_of_run? {moves : List (Move ω)}
    (hrun : ({} : Session ω).run? moves = some (s, history)) : s.source = .counting :=
  run?_induction (P := fun _ _ s => s.source = .counting)
    (fun h hstep => hstep.source_eq.trans h) [] [] rfl hrun

/-! ### What the controller sees -/

/-- Without an executor a caller's asynchronous call is **refused**, and that is all. -/
theorem refused_of_absent {client : Client} {caller : Nat} {context : CallContext}
    (hcaller : s.callers[caller]? = some context) (hexecutor : client.hasExecutor = false)
    (operation : Operation) (handler : MessageHandler) (id : String) (shape : Shape) :
    s.step? (.submit client caller operation handler id shape) =
      some (s, [.refused .noExecutor]) := by
  rw [step?, submit?, hcaller, Option.map_some, Client.submit, hexecutor]
  rfl

/-- **Identity propagation**: in every session, a call that is dispatched asks the supplier once,
at that moment, and nothing else asks it. Over the whole session, whatever comes before and after,
the controller is invoked once at most for the call, at once for a synchronous one, with whoever
was established when it was dispatched, with the operation as it was given, and to commit. It is
invoked for no call that was not made. An asynchronous call of a client without an executor is
refused, with no other trace. -/
theorem propagation_of_run? {moves later : List (Move ω)} {future : List (Occurrence ω)}
    (hrun : ({} : Session ω).run? moves = some (s, history))
    (hstep : s.step? m = some (next, new)) (hlater : next.run? later = some (last, future)) :
    (∀ call client context operation, s.Dispatches m call client context operation →
      next.sourceState.asked = s.sourceState.asked + 1 ∧
      (invocationsFor call (history ++ new ++ future)).length ≤ 1 ∧
      (∀ position, call = .direct position → invocationsFor call new ≠ []) ∧
      ∀ invocation ∈ invocationsFor call (history ++ new ++ future),
        Established history invocation.context.identity ∧ invocation.operation = operation ∧
          invocation.control = .commit) ∧
    ((∀ call client context operation, ¬ s.Dispatches m call client context operation) →
      next.sourceState.asked = s.sourceState.asked) ∧
    (∀ call, ¬ s.Made call → invocationsFor call history = []) ∧
    (∀ client caller context operation handler id shape,
      s.callers[caller]? = some context → client.hasExecutor = false →
      s.step? (.submit client caller operation handler id shape) =
        some (s, [.refused .noExecutor])) := by
  have hsource := counting_of_run? hrun
  obtain ⟨hasked, hunasked⟩ := (step_of_step? hstep).asked hsource
  refine ⟨fun call client context operation hdispatch => ?_, hunasked,
    fun call hunmade => invocationsFor_of_unmade hrun hunmade,
    fun client caller context operation handler id shape hcaller hexecutor =>
      refused_of_absent hcaller hexecutor operation handler id shape⟩
  have honce := invocationsFor_of_dispatch hdispatch hstep hlater
  -- The call did not exist before it was dispatched, so only what occurs from then on counts.
  rw [List.append_assoc, invocationsFor_append,
    invocationsFor_of_unmade hrun hdispatch.not_made, List.nil_append]
  refine ⟨hasked _ _ _ _ hdispatch, honce.length_le, ?_, fun invocation hmem => ?_⟩
  · rintro position rfl
    exact invocationsFor_of_direct hdispatch hstep
  obtain rfl := List.mem_singleton.mp (honce.subset hmem)
  refine ⟨?_, Operation.requestCopy_eq _, rfl⟩
  rw [Dispatch.invocation, Dispatch.context_eq,
    s.captured_identity client context operation (by simp [hsource])]
  exact (established_iff_held hrun).mpr rfl

/-- Alice logs in with her certificate, and bob fails to with a password. -/
def aliceMoves : List (Move Nat) :=
  [.arrive .external, .establish ⟨⟨"carol"⟩, [], {}⟩, .clear,
    .login (.clientCertificate "staff") ⟨.peerChain ⟨⟨"alice", "root"⟩, []⟩, none, none⟩,
    .login (.clientCertificate "staff") ⟨.passwordGuess "bob", none, none⟩]

/-- Alice uploads a stream, which is to be closed. -/
def uploadMove : Move Nat :=
  .submit ⟨false, true⟩ 0 ⟨.object [("operation", .string "upload")], some ⟨[[1, 2]], true⟩⟩
    .logging "upload" .full

/-- The upload runs when somebody else is established. -/
def laterMoves : List (Move Nat) :=
  [.clear, .establish ⟨⟨"bob"⟩, [], {}⟩, .call ⟨true, false⟩ 0 ⟨.null, none⟩ .discarding,
    .act 0 (.claim ⟨0⟩), .act 0 .invoke]

/-- The controller sees that it is alice who uploads. -/
theorem propagated_upload :
    ∃ s history next new last future invocation,
      ({} : Session Nat).run? aliceMoves = some (s, history) ∧
        s.step? uploadMove = some (next, new) ∧ next.run? laterMoves = some (last, future) ∧
        invocationsFor (.queued s.calls.length) (history ++ new ++ future) = [invocation] ∧
        Established history invocation.context.identity ∧
        invocation.context.user = some "alice" ∧
        invocation.operation.streams = [[1, 2]] ∧ invocation.operation.autoClose = true ∧
        next.sourceState.asked = s.sourceState.asked + 1 := by
  obtain ⟨s, history, next, new, last, future, invocation, hrun, hstep, hlater, hcaller, hinvoked,
      huser⟩ :
      ∃ s history next new last future invocation,
        ({} : Session Nat).run? aliceMoves = some (s, history) ∧
          s.step? uploadMove = some (next, new) ∧ next.run? laterMoves = some (last, future) ∧
          s.callers[0]? = some .external ∧
          invocationsFor (.queued s.calls.length) (history ++ new ++ future) = [invocation] ∧
          invocation.context.user = some "alice" :=
    ⟨_, _, _, _, _, _, _, rfl, rfl, rfl, rfl, rfl, rfl⟩
  obtain ⟨hdispatched, -⟩ := propagation_of_run? hrun hstep hlater
  obtain ⟨hasked, -, -, hsees⟩ := hdispatched _ _ _ _ (.submit hcaller rfl)
  rw [hinvoked] at hsees
  obtain ⟨hestablished, hoperation, -⟩ := hsees invocation (List.mem_singleton_self invocation)
  exact ⟨s, history, next, new, last, future, invocation, hrun, hstep, hlater, hinvoked,
    hestablished, huser, by rw [hoperation]; rfl, by rw [hoperation]; rfl, hasked⟩

end Session

end CallGate

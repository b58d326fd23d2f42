/-!
# Interleavings

Several parties act on one state, each move of theirs is possible or not, and each tells what
happened on the way. An *interleaving* is a list of moves, because between any two of them
somebody else may move.

* `Interleaving.run?` — the state after some moves, and everything that they told.
* `Interleaving.run?_induction` — what every move keeps holds after a run.
-/

namespace CallGate.Interleaving

variable {σ μ ε : Type}

/-- A **run**: moves one after the other, and all they told in order; nothing if one of the
moves cannot happen. -/
def run? (step? : σ → μ → Option (σ × List ε)) (s : σ) : List μ → Option (σ × List ε)
  | [] => some (s, [])
  | m :: rest =>
    match step? s m with
    | none => none
    | some (next, told) => (run? step? next rest).map fun r => (r.1, told ++ r.2)

variable {step? : σ → μ → Option (σ × List ε)} {s last : σ} {m : μ} {moves more : List μ}
  {told : List ε}

/-- A run of no moves. -/
theorem run?_nil : run? step? s [] = some (last, told) ↔ s = last ∧ [] = told := by
  rw [run?, Option.some.injEq, Prod.mk.injEq]

/-- A run begins with its first move. -/
theorem run?_cons :
    run? step? s (m :: moves) = some (last, told) ↔
      ∃ next first later, step? s m = some (next, first) ∧
        run? step? next moves = some (last, later) ∧ first ++ later = told := by
  rw [run?]
  constructor
  · intro h
    split at h
    next => cases h
    next next first hstep =>
      obtain ⟨⟨_, later⟩, hrest, hr⟩ := Option.map_eq_some_iff.mp h
      obtain ⟨rfl, rfl⟩ := Prod.mk.inj hr
      exact ⟨next, first, later, hstep, hrest, rfl⟩
  · rintro ⟨next, first, later, hstep, hrest, rfl⟩
    rw [hstep]
    exact Option.map_eq_some_iff.mpr ⟨_, hrest, rfl⟩

/-- Moves can run one after the other if some can, and then the others. -/
theorem run?_append :
    run? step? s (moves ++ more) = some (last, told) ↔
      ∃ middle first later, run? step? s moves = some (middle, first) ∧
        run? step? middle more = some (last, later) ∧ first ++ later = told := by
  induction moves generalizing s told with
  | nil =>
      constructor
      · intro h
        exact ⟨s, [], told, rfl, h, rfl⟩
      · rintro ⟨middle, first, later, hfirst, hlater, rfl⟩
        obtain ⟨rfl, rfl⟩ := run?_nil.mp hfirst
        exact hlater
  | cons m rest ih =>
      simp only [List.cons_append, run?_cons, ih]
      constructor
      · rintro ⟨next, first, _, hstep, ⟨middle, second, later, hrest, hlater, rfl⟩, rfl⟩
        exact ⟨middle, first ++ second, later, ⟨next, first, second, hstep, hrest, rfl⟩, hlater,
          List.append_assoc ..⟩
      · rintro ⟨middle, _, later, ⟨next, first, second, hstep, hrest, rfl⟩, hlater, rfl⟩
        exact ⟨next, first, second ++ later, hstep, ⟨middle, second, later, hrest, hlater, rfl⟩,
          (List.append_assoc ..).symm⟩

/-- **Induction along a run**: what holds after some moves that told something, and is kept by
every move, holds after the run. -/
theorem run?_induction {P : List μ → List ε → σ → Prop}
    (hstep : ∀ {before past s m next new}, P before past s → step? s m = some (next, new) →
      P (before ++ [m]) (past ++ new) next)
    (before : List μ) (past : List ε) (hstart : P before past s)
    (hrun : run? step? s moves = some (last, told)) :
    P (before ++ moves) (past ++ told) last := by
  induction moves generalizing before past s told with
  | nil =>
      obtain ⟨rfl, rfl⟩ := run?_nil.mp hrun
      simpa using hstart
  | cons m rest ih =>
      obtain ⟨next, first, later, hm, hrest, rfl⟩ := run?_cons.mp hrun
      have h := ih _ _ (hstep hstart hm) hrest
      rwa [List.append_assoc, List.append_assoc] at h

end CallGate.Interleaving

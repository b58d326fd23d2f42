import CallGate.Proofs.Session.Views
import Mathlib.Data.List.Forall2

/-!
# Calls Do Not Interfere

Asynchronous calls share one controller, one executor and one source of identities, and still
none of them can tell what becomes of another. Steps on different calls can be swapped, and more
generally the moves about the calls of a session can be rearranged in every order in which those
about each single call stay in their order (`Session.Rearranges`). The session is the same after
it, but for the order in which flags were raised, so that everything later goes the same way too
(`Session.Alike`). The controller has only to answer to what it is given.

So what becomes of a call depends on the moves about it, where the controller's own part need not
be given (`Session.Move.SameCue`): tasks that panic, are dropped or are cancelled change nothing for
the tasks that run after them.

## Main results

* `Session.runUnder?_rearranged`: moves about calls can be rearranged.
* `Session.same_of_sameCues`: a call cannot tell what becomes of the others.
* `Session.noninterference_of_run?`: calls do not interfere.
-/

namespace CallGate

variable {ω : Type}

namespace Session

/-! ### Sessions that are alike -/

/-- The session with its flags raised in some other order. -/
def withRaised (s : Session ω) (raised : List Interrupt) : Session ω :=
  { s with signals := { s.signals with raised } }

/-- Sessions are **alike** if they are the same but for the order in which flags were raised. -/
def Alike (s other : Session ω) : Prop :=
  ∃ raised, other = s.withRaised raised ∧
    ∀ flag, other.signals.isRaised flag = s.signals.isRaised flag

variable {s next last other final : Session ω} {m : Move ω} {moves : List (Move ω)}
  {new told : List (Occurrence ω)} {position : Nat} {controller : Controller}

/-- Sessions that are alike show the same of every call. -/
theorem Alike.view?_eq (h : Alike s other) (position : Nat) :
    other.view? position = s.view? position := by
  obtain ⟨raised, rfl, hraised⟩ := h
  exact view?_congr rfl fun t _ => hraised t.interrupt

/-- A controller answers alike in sessions that are alike. -/
theorem Alike.answers_eq (h : Alike s other) (controller : Controller) (m : Move ω) :
    other.Answers controller m = s.Answers controller m := by
  have hview := h.view?_eq
  obtain ⟨raised, rfl, hraised⟩ := h
  cases m with
  | act position action =>
      cases action with
      | finish ending => rw [Answers, Answers, hview]
      | _ => rfl
  | answer position ending =>
      simp only [Answers, ExecutionContext.isInterrupted, hraised]
      rfl
  | _ => rfl

variable [BEq ω]

/-- A move that is no action on a call does not look at what is raised. -/
theorem step?_withRaised (raised : List Interrupt)
    (hother : ∀ position action, m ≠ .act position action) :
    (s.withRaised raised).step? m =
      (s.step? m).map fun r => (r.1.withRaised raised, r.2) := by
  cases m with
  | act position action => exact absurd rfl (hother position action)
  | call client caller operation handler =>
      rw [step?, step?, call?, call?, Option.map_map]
      rfl
  | submit client caller operation handler id shape =>
      rw [step?, step?, submit?, submit?, Option.map_map]
      cases hexecutor : client.hasExecutor with
      | false =>
          simp only [Client.submit, hexecutor, Bool.false_eq_true, if_false]
          rfl
      | true =>
          simp only [Client.submit, hexecutor, if_true]
          rfl
  | report call report =>
      rw [step?, step?, report?, report?, Option.map_map]
      cases call <;> rfl
  | answer position ending =>
      rw [step?, step?, answer?, answer?, Option.map_map]
      rfl
  | _ => rfl

/-- A step that is no action on a call raises nothing. -/
theorem Step.raised_eq (hstep : Step s m next new)
    (hother : ∀ position action, m ≠ .act position action) :
    next.signals.raised = s.signals.raised := by
  cases hstep with
  | acted => exact absurd rfl (hother _ _)
  | _ => rfl

/-- An action on a call does the same in sessions that are alike. -/
theorem Alike.act {action : Action ω} (h : Alike s other)
    (hstep : s.step? (.act position action) = some (next, new)) :
    ∃ final, other.step? (.act position action) = some (final, new) ∧ Alike next final := by
  obtain ⟨raised, rfl, hraised⟩ := h
  obtain ⟨t, flight, effects, hcall, hmoved, rfl, rfl⟩ := step?_act_eq_some_iff.mp hstep
  refine ⟨(s.withRaised raised).withFlight position t flight effects,
    step?_act_eq_some_iff.mpr ⟨t, flight, effects, hcall, hmoved, rfl, rfl⟩,
    ((s.withRaised raised).signals.after effects).raised, ?_, fun flag => ?_⟩
  · have hcount : ((s.withRaised raised).signals.after effects).handedOut =
        (s.signals.after effects).handedOut :=
      (Signals.handedOut_after ..).trans (Signals.handedOut_after s.signals effects).symm
    exact congrArg
      (fun handedOut => ({ s with
        calls := s.calls.set position { t with flight }
        signals := ⟨handedOut, ((s.withRaised raised).signals.after effects).raised⟩ } : Session ω))
      hcount
  · show ((s.withRaised raised).signals.after effects).isRaised flag =
      (s.signals.after effects).isRaised flag
    rw [Bool.eq_iff_iff, Signals.isRaised_after, Signals.isRaised_after, hraised]

/-- Any other move does the same in sessions that are alike. -/
theorem Alike.move (h : Alike s other) (hmove : ∀ position action, m ≠ .act position action)
    (hstep : s.step? m = some (next, new)) :
    ∃ final, other.step? m = some (final, new) ∧ Alike next final := by
  obtain ⟨raised, rfl, hraised⟩ := h
  have hsame := (step_of_step? hstep).raised_eq hmove
  refine ⟨next.withRaised raised, ?_, raised, rfl, fun flag => ?_⟩
  · rw [step?_withRaised raised hmove, hstep]
    rfl
  · have hflag := hraised flag
    rw [Signals.isRaised, Signals.isRaised] at hflag ⊢
    rw [hsame]
    exact hflag

/-- Sessions that are alike go on **alike**. -/
theorem Alike.step (h : Alike s other) (hstep : s.stepUnder? controller m = some (next, new)) :
    ∃ final, other.stepUnder? controller m = some (final, new) ∧ Alike next final := by
  obtain ⟨hanswers, hstep⟩ := stepUnder?_eq_some_iff.mp hstep
  rw [← h.answers_eq] at hanswers
  have hsame : ∃ final, other.step? m = some (final, new) ∧ Alike next final := by
    cases m with
    | act position action => exact h.act hstep
    | _ => exact h.move (fun _ _ => (nomatch ·)) hstep
  obtain ⟨final, hfinal, halike⟩ := hsame
  exact ⟨final, stepUnder?_eq_some_iff.mpr ⟨hanswers, hfinal⟩, halike⟩

/-- Sessions that are alike have the **same future**. -/
theorem Alike.run (h : Alike s other) (hrun : s.runUnder? controller moves = some (last, told)) :
    ∃ final, other.runUnder? controller moves = some (final, told) ∧ Alike last final := by
  induction moves generalizing s other told with
  | nil =>
      obtain ⟨rfl, rfl⟩ := Interleaving.run?_nil.mp hrun
      exact ⟨other, rfl, h⟩
  | cons m rest ih =>
      obtain ⟨next, first, later, hstep, hlater, rfl⟩ := Interleaving.run?_cons.mp hrun
      obtain ⟨middle, hmiddle, hnext⟩ := h.step hstep
      obtain ⟨final, hfinal, hlast⟩ := ih hnext hlater
      exact ⟨final, Interleaving.run?_cons.mpr ⟨middle, first, later, hmiddle, hfinal, rfl⟩, hlast⟩

/-! ### What moves about calls leave alone -/

/-- What is **left** of a session by moves about calls: all of it but flights and raised flags. -/
def Left (s next : Session ω) : Prop :=
  ∃ calls raised, calls.length = s.calls.length ∧
    next = { s with calls, signals := { s.signals with raised } }

/-- A step about a call leaves the rest of the session. -/
theorem Step.left (hstep : Step s m next new) (habout : m.about?.isSome = true) :
    Left s next := by
  cases hstep with
  | @acted position _ ticket flight effects =>
      refine ⟨s.calls.set position { ticket with flight }, (s.signals.after effects).raised,
        List.length_set, ?_⟩
      exact congrArg
        (fun handedOut => ({ s with
          calls := s.calls.set position { ticket with flight }
          signals := ⟨handedOut, (s.signals.after effects).raised⟩ } : Session ω))
        (Signals.handedOut_after s.signals effects)
  | reported => exact ⟨s.calls, s.signals.raised, rfl, rfl⟩
  | _ => cases habout

/-- What is left of a session at the end of a run of moves about calls. -/
theorem left_of_runUnder? (habout : ∀ m ∈ moves, m.about?.isSome = true)
    (hrun : s.runUnder? controller moves = some (last, told)) : Left s last := by
  induction moves generalizing s told with
  | nil =>
      obtain ⟨rfl, rfl⟩ := Interleaving.run?_nil.mp hrun
      exact ⟨s.calls, s.signals.raised, rfl, rfl⟩
  | cons m rest ih =>
      obtain ⟨hm, hrest⟩ := List.forall_mem_cons.mp habout
      obtain ⟨next, first, later, hstep, hlater, rfl⟩ := Interleaving.run?_cons.mp hrun
      obtain ⟨-, hplain⟩ := stepUnder?_eq_some_iff.mp hstep
      obtain ⟨calls, raised, hlength, rfl⟩ := (step_of_step? hplain).left hm
      obtain ⟨calls, raised, hlast, rfl⟩ := ih hrest hlater
      exact ⟨calls, raised, hlast.trans hlength, rfl⟩

/-- A move about a call finds it made. -/
theorem Step.lt_of_about? (hstep : Step s m next new) (habout : m.about? = some position) :
    position < s.calls.length := by
  cases hstep with
  | acted hcall =>
      obtain rfl := Option.some.inj habout
      exact (List.getElem?_eq_some_iff.mp hcall).1
  | @reported call _ _ hhandler =>
      cases call with
      | direct _ => cases habout
      | queued _ =>
          obtain rfl := Option.some.inj habout
          obtain ⟨_, hfound, -⟩ := Option.map_eq_some_iff.mp hhandler
          obtain ⟨hcall, -⟩ := Option.filter_eq_some_iff.mp hfound
          exact (List.getElem?_eq_some_iff.mp hcall).1
  | _ => cases habout

/-- Moves about calls find them made. -/
theorem lt_of_mem_run (habout : ∀ m ∈ moves, m.about?.isSome = true)
    (hrun : s.runUnder? controller moves = some (last, told)) (hmem : m ∈ moves)
    (hm : m.about? = some position) : position < s.calls.length := by
  induction moves generalizing s told with
  | nil => exact absurd hmem List.not_mem_nil
  | cons first rest ih =>
      obtain ⟨hfirst, hrest⟩ := List.forall_mem_cons.mp habout
      obtain ⟨next, _, _, hstep, hlater, -⟩ := Interleaving.run?_cons.mp hrun
      obtain ⟨-, hplain⟩ := stepUnder?_eq_some_iff.mp hstep
      rcases List.mem_cons.mp hmem with rfl | hlast
      · exact (step_of_step? hplain).lt_of_about? hm
      · obtain ⟨calls, raised, hlength, rfl⟩ := (step_of_step? hplain).left hfirst
        exact hlength ▸ ih hrest hlater hlast

/-! ### What a call can tell of the others -/

/-- Two moves have the **same cue** if they are the same, but for how the controller ends what it
does for an asynchronous call. -/
inductive Move.SameCue : Move ω → Move ω → Prop
  | same (m : Move ω) : SameCue m m
  | finish (position : Nat) (ending other : Ending) :
      SameCue (.act position (.finish ending)) (.act position (.finish other))

/-- Moves with the same cues are the same under a controller, which gives the same answers to
them. -/
theorem eq_of_sameCues {others : List (Move ω)} {retold : List (Occurrence ω)}
    (hcues : List.Forall₂ Move.SameCue moves others)
    (hrun : s.runUnder? controller moves = some (last, told))
    (hother : s.runUnder? controller others = some (final, retold)) : moves = others := by
  induction hcues generalizing s told retold with
  | nil => rfl
  | cons hcue _ ih =>
      obtain ⟨next, _, _, hstep, hlater, -⟩ := Interleaving.run?_cons.mp hrun
      obtain ⟨again, _, _, hagain, hafter, -⟩ := Interleaving.run?_cons.mp hother
      cases hcue with
      | same m =>
          obtain ⟨rfl, -⟩ := Prod.mk.inj (Option.some.inj (hstep.symm.trans hagain))
          rw [ih hlater hafter]
      | finish position ending other =>
          obtain ⟨hanswers, hplain⟩ := stepUnder?_eq_some_iff.mp hstep
          obtain ⟨hanswersAgain, -⟩ := stepUnder?_eq_some_iff.mp hagain
          obtain ⟨t, _, _, hcall, -⟩ := step?_act_eq_some_iff.mp hplain
          have hview : s.view? position = some ⟨t, s.signals.isRaised t.interrupt⟩ :=
            view?_eq_some_iff.mpr ⟨hcall, rfl⟩
          rw [Answers, hview] at hanswers hanswersAgain
          obtain rfl : ending = other :=
            (beq_iff_eq.mp hanswers).trans (beq_iff_eq.mp hanswersAgain).symm
          obtain ⟨rfl, -⟩ := Prod.mk.inj (Option.some.inj (hstep.symm.trans hagain))
          rw [ih hlater hafter]

/-- Runs with the same moves about a call leave it with the **same view** and tell the same of
it. -/
theorem same_of_movesOn_eq {others : List (Move ω)} {retold : List (Occurrence ω)} {v : View ω}
    (hreached : s.Reached) (hview : s.view? position = some v)
    (hsame : movesOn position others = movesOn position moves)
    (hrun : s.runUnder? controller moves = some (last, told))
    (hother : s.runUnder? controller others = some (final, retold)) :
    final.view? position = last.view? position ∧
      occurrencesOf (.queued position) retold = occurrencesOf (.queued position) told := by
  obtain ⟨_, _, halone, hlast, htold⟩ := runUnder?_alone hreached hview hrun
  obtain ⟨_, _, hagain, hfinal, hretold⟩ := runUnder?_alone hreached hview hother
  rw [hsame] at hagain
  obtain ⟨rfl, rfl⟩ := Prod.mk.inj (Option.some.inj (halone.symm.trans hagain))
  exact ⟨hfinal.symm.trans hlast, hretold.symm.trans htold⟩

/-- **A call cannot tell** what becomes of the others: runs under a controller with the same cues
for a call leave it with the same view and tell the same of it. -/
theorem same_of_sameCues {others : List (Move ω)} {retold : List (Occurrence ω)} {v : View ω}
    (hreached : s.Reached) (hview : s.view? position = some v)
    (hcues : List.Forall₂ Move.SameCue (movesOn position moves) (movesOn position others))
    (hrun : s.runUnder? controller moves = some (last, told))
    (hother : s.runUnder? controller others = some (final, retold)) :
    final.view? position = last.view? position ∧
      occurrencesOf (.queued position) retold = occurrencesOf (.queued position) told := by
  obtain ⟨_, _, halone, -⟩ := runUnder?_alone hreached hview hrun
  obtain ⟨_, _, hagain, -⟩ := runUnder?_alone hreached hview hother
  exact same_of_movesOn_eq hreached hview (eq_of_sameCues hcues halone hagain).symm hrun hother

/-! ### Rearranging moves -/

/-- Moves about calls are **rearranged**: those about each call stay in their order. -/
structure Rearranges (moves others : List (Move ω)) : Prop where
  about : ∀ m ∈ moves, m.about?.isSome = true
  aboutOthers : ∀ m ∈ others, m.about?.isSome = true
  same : ∀ position, movesOn position others = movesOn position moves

/-- Two runs from a session have the **same results**: they end in sessions that are alike, with
the same view of every call, and tell the same of every call that was made before. -/
structure SameResults (s last final : Session ω) (told retold : List (Occurrence ω)) : Prop where
  alike : Alike last final
  views : ∀ position, final.view? position = last.view? position
  occurrences : ∀ position v, s.view? position = some v →
    occurrencesOf (.queued position) retold = occurrencesOf (.queued position) told

omit [BEq ω] in
/-- A flag is raised wherever the views of all calls are the same. -/
theorem Distinct.isRaised_of_views {flag : Interrupt} (h : s.Distinct)
    (hviews : ∀ position, other.view? position = s.view? position)
    (hraised : s.signals.isRaised flag = true) : other.signals.isRaised flag = true := by
  obtain ⟨position, hflag⟩ := h.raised hraised
  obtain ⟨t, hcall, rfl⟩ := Option.map_eq_some_iff.mp hflag
  have hview : s.view? position = some ⟨t, true⟩ := view?_eq_some_iff.mpr ⟨hcall, hraised⟩
  rw [← hviews] at hview
  exact (view?_eq_some_iff.mp hview).2

omit [BEq ω] in
/-- Sessions in which nothing but flights and flags has changed are alike if they show the same
of every call. -/
theorem Left.alike (hlast : Left s last) (hfinal : Left s final) (hdistinct : last.Distinct)
    (hagain : final.Distinct)
    (hviews : ∀ position, final.view? position = last.view? position) : Alike last final := by
  have hraised (flag : Interrupt) :
      final.signals.isRaised flag = last.signals.isRaised flag :=
    Bool.eq_iff_iff.mpr ⟨hagain.isRaised_of_views fun position => (hviews position).symm,
      hdistinct.isRaised_of_views hviews⟩
  have hcalls : final.calls = last.calls := by
    refine List.ext_getElem? fun position => ?_
    have htickets := congrArg (Option.map View.ticket) (hviews position)
    simpa [view?, Function.comp_def] using htickets
  obtain ⟨_, _, -, rfl⟩ := hlast
  obtain ⟨_, raised, -, rfl⟩ := hfinal
  obtain rfl := hcalls
  exact ⟨raised, rfl, hraised⟩

/-- **Moves about calls can be rearranged**, with the same results. -/
theorem runUnder?_rearranged {others : List (Move ω)} (hreached : s.Reached)
    (h : Rearranges moves others) (hrun : s.runUnder? controller moves = some (last, told)) :
    ∃ final retold, s.runUnder? controller others = some (final, retold) ∧
      SameResults s last final told retold := by
  have halone : ∀ position, (s.runUnder? controller (movesOn position others)).isSome = true := by
    intro position
    rw [h.same]
    by_cases hlt : position < s.calls.length
    · obtain ⟨v, hview⟩ := exists_view?_of_lt hlt
      obtain ⟨_, _, hown, -⟩ := runUnder?_alone hreached hview hrun
      exact Option.isSome_iff_exists.mpr ⟨_, hown⟩
    · have hnone : movesOn position moves = [] :=
        List.filter_eq_nil_iff.mpr fun m hmem heq =>
          hlt (lt_of_mem_run h.about hrun hmem (beq_iff_eq.mp heq))
      rw [hnone]
      rfl
  obtain ⟨final, retold, hfinal⟩ := runUnder?_together hreached h.aboutOthers halone
  have hleft := left_of_runUnder? h.about hrun
  have hleftAgain := left_of_runUnder? h.aboutOthers hfinal
  have hviews : ∀ position, final.view? position = last.view? position := by
    intro position
    by_cases hlt : position < s.calls.length
    · obtain ⟨v, hview⟩ := exists_view?_of_lt hlt
      exact (same_of_movesOn_eq hreached hview (h.same position) hrun hfinal).1
    · obtain ⟨calls, _, hlength, rfl⟩ := hleft
      obtain ⟨again, _, hlengthAgain, rfl⟩ := hleftAgain
      have hnone : calls[position]? = none := List.getElem?_eq_none (by omega)
      have hnoneAgain : again[position]? = none := List.getElem?_eq_none (by omega)
      rw [view?, view?, hnone, hnoneAgain]
      rfl
  refine ⟨final, retold, hfinal, ?_, hviews, fun position v hview => ?_⟩
  · exact hleft.alike hleftAgain (hreached.run hrun).distinct (hreached.run hfinal).distinct hviews
  · exact (same_of_movesOn_eq hreached hview (h.same position) hrun hfinal).2

/-- Whatever comes later, the results stay the **same**. -/
theorem SameResults.run {after : List (Move ω)} {middle again : Session ω}
    {retold later : List (Occurrence ω)} (h : SameResults s middle again told retold)
    (hafter : middle.runUnder? controller after = some (last, later)) :
    ∃ final, again.runUnder? controller after = some (final, later) ∧
      SameResults s last final (told ++ later) (retold ++ later) := by
  obtain ⟨final, hfinal, halike⟩ := h.alike.run hafter
  refine ⟨final, hfinal, halike, halike.view?_eq, fun position v hview => ?_⟩
  rw [occurrencesOf_append, occurrencesOf_append, h.occurrences position v hview]

/-- Moves about calls can be rearranged, **whatever comes later**. -/
theorem runUnder?_rearranged_append {others after : List (Move ω)} (hreached : s.Reached)
    (h : Rearranges moves others)
    (hrun : s.runUnder? controller (moves ++ after) = some (last, told)) :
    ∃ final retold, s.runUnder? controller (others ++ after) = some (final, retold) ∧
      SameResults s last final told retold := by
  obtain ⟨middle, first, later, hmoves, hafter, rfl⟩ := Interleaving.run?_append.mp hrun
  obtain ⟨again, refirst, hothers, hsame⟩ := runUnder?_rearranged hreached h hmoves
  obtain ⟨final, hfinal, hsame⟩ := hsame.run hafter
  exact ⟨final, refirst ++ later,
    Interleaving.run?_append.mpr ⟨again, refirst, later, hothers, hfinal, rfl⟩, hsame⟩

omit [BEq ω] in
/-- The moves about a call, among moves about another one. -/
theorem movesOn_of_ne {moved : Nat} (habout : ∀ m ∈ moves, m.about? = some moved)
    (hother : moved ≠ position) : movesOn position moves = [] := by
  refine List.filter_eq_nil_iff.mpr fun m hmem heq => hother ?_
  exact Option.some.inj ((habout m hmem).symm.trans (beq_iff_eq.mp heq))

omit [BEq ω] in
/-- Two steps on **different calls** can be swapped. -/
theorem Rearranges.swap {first second : List (Move ω)} {moved : Nat} (hne : position ≠ moved)
    (hfirst : ∀ m ∈ first, m.about? = some position)
    (hsecond : ∀ m ∈ second, m.about? = some moved) :
    Rearranges (first ++ second) (second ++ first) := by
  have habout : ∀ m, m ∈ first ∨ m ∈ second → m.about?.isSome = true := by
    rintro m (hmem | hmem)
    · rw [hfirst m hmem]
      rfl
    · rw [hsecond m hmem]
      rfl
  refine ⟨fun m hmem => habout m (List.mem_append.mp hmem),
    fun m hmem => habout m (List.mem_append.mp hmem).symm, fun seen => ?_⟩
  rw [movesOn, movesOn, List.filter_append, List.filter_append, ← movesOn, ← movesOn]
  by_cases hseen : position = seen
  · rw [movesOn_of_ne hsecond (hseen ▸ hne.symm), List.nil_append, List.append_nil]
  · rw [movesOn_of_ne hfirst hseen, List.nil_append, List.append_nil]

/-- **Calls do not interfere.** In every session, whose controller answers to what it is given:

* two adjacent steps on different calls can be swapped, whether a task is run or dropped or a call
  is cancelled or observed in them, and whatever comes later; and moves about any number of calls
  can be rearranged, with the same results;
* a controller is interrupted by a cancel of its own asynchronous call only, and that of a
  synchronous call never is;
* with the same cues for a call, the call has the same view and tells the same in the end, whatever
  is done to the others, and also if nothing is. -/
theorem noninterference_of_run? {source : Source} {before : List (Move ω)}
    {past : List (Occurrence ω)} (hrun : ({ source } : Session ω).run? before = some (s, past))
    (controller : Controller) :
    (∀ position moved first second after last told, position ≠ moved →
      (∀ m ∈ first, m.about? = some position) → (∀ m ∈ second, m.about? = some moved) →
      s.runUnder? controller (first ++ second ++ after) = some (last, told) →
      ∃ final retold, s.runUnder? controller (second ++ first ++ after) = some (final, retold) ∧
        SameResults s last final told retold) ∧
    (∀ moves others after last told, Rearranges moves others →
      s.runUnder? controller (moves ++ after) = some (last, told) →
      ∃ final retold, s.runUnder? controller (others ++ after) = some (final, retold) ∧
        SameResults s last final told retold) ∧
    (∀ position t, s.calls[position]? = some t →
      ((t.invocation t.interrupt).context.isInterrupted s.signals = true ↔
        Interrupted t.interrupt (actionsOn position before))) ∧
    (∀ call ∈ s.direct, call.invocation.context.isInterrupted s.signals = false) ∧
    (∀ position v moves others last told final retold, s.view? position = some v →
      List.Forall₂ Move.SameCue (movesOn position moves) (movesOn position others) →
      s.runUnder? controller moves = some (last, told) →
      s.runUnder? controller others = some (final, retold) →
      final.view? position = last.view? position ∧
        occurrencesOf (.queued position) retold = occurrencesOf (.queued position) told) ∧
    (∀ position v moves last told, s.view? position = some v →
      s.runUnder? controller moves = some (last, told) →
      ∃ final alone, s.runUnder? controller (movesOn position moves) = some (final, alone) ∧
        final.view? position = last.view? position ∧
        occurrencesOf (.queued position) alone = occurrencesOf (.queued position) told) := by
  have hreached : s.Reached := ⟨source, before, past, hrun⟩
  obtain ⟨hqueued, hdirect⟩ := isInterrupted_of_run? hrun
  refine ⟨fun position moved first second after last told hne hfirst hsecond hswap => ?_,
    fun _ _ _ _ _ h hmoves => runUnder?_rearranged_append hreached h hmoves, hqueued, hdirect,
    fun _ _ _ _ _ _ _ _ hview hcues hmoves hothers =>
      same_of_sameCues hreached hview hcues hmoves hothers,
    fun _ _ _ _ _ hview hmoves => runUnder?_alone hreached hview hmoves⟩
  exact runUnder?_rearranged_append hreached (.swap hne hfirst hsecond) hswap

/-- Alice makes two asynchronous calls. -/
def twoCalls : List (Move Nat) :=
  [.arrive .external, .establish ⟨⟨"alice"⟩, [], {}⟩,
    .submit ⟨false, true⟩ 0 ⟨.null, none⟩ .discarding "first" .full,
    .submit ⟨false, true⟩ 0 ⟨.null, none⟩ .discarding "second" .document]

/-- A controller that panics when it is interrupted, and else fails. -/
def jumpyController : Controller :=
  ⟨fun _ interrupted => ⟨[], if interrupted then .panicked .other else .failed .noExecutor⟩⟩

/-- The first call is interrupted while it runs, and its controller panics. -/
def interruptedMoves : List (Move Nat) :=
  [.act 0 (.claim ⟨0⟩), .act 0 .invoke, .act 0 (.cancel false true),
    .act 0 (.finish (.panicked .other)), .act 0 .abandon, .act 0 (.resume 0), .act 0 .settle,
    .act 0 .release, .act 0 (.read 0)]

/-- The second call runs undisturbed. -/
def steadyMoves : List (Move Nat) :=
  [.act 1 (.claim ⟨1⟩), .act 1 .invoke, .act 1 (.finish (.failed .noExecutor)), .act 1 .settle,
    .act 1 .release, .act 1 .abandon]

/-- Somebody calls while nothing else is going on. -/
def directMoves : List (Move Nat) :=
  [.call ⟨true, false⟩ 0 ⟨.null, none⟩ .discarding, .answer 0 (.failed .noExecutor)]

/-- The first call is cancelled and interrupted and the second one fails by itself, whichever of
them goes first. -/
theorem undisturbed_twoCalls :
    ∃ s past last told final retold,
      ({} : Session Nat).run? twoCalls = some (s, past) ∧
        s.runUnder? jumpyController (interruptedMoves ++ steadyMoves ++ directMoves) =
          some (last, told) ∧
        s.runUnder? jumpyController (steadyMoves ++ interruptedMoves ++ directMoves) =
          some (final, retold) ∧
        final.view? 0 = last.view? 0 ∧ (last.view? 0).map View.interrupted = some true ∧
        final.view? 1 = last.view? 1 ∧ (last.view? 1).map View.interrupted = some false ∧
        (last.view? 1).bind (fun v => v.ticket.flight.call.outcome?) =
          some (.failed .noExecutor) := by
  obtain ⟨s, past, last, told, hrun, hmoves, hfirst, hsecond, houtcome⟩ :
      ∃ s past last told,
        ({} : Session Nat).run? twoCalls = some (s, past) ∧
          s.runUnder? jumpyController (interruptedMoves ++ steadyMoves ++ directMoves) =
            some (last, told) ∧
          (last.view? 0).map View.interrupted = some true ∧
          (last.view? 1).map View.interrupted = some false ∧
          (last.view? 1).bind (fun v => v.ticket.flight.call.outcome?) =
            some (.failed .noExecutor) :=
    ⟨_, _, _, _, rfl, rfl, rfl, rfl, rfl⟩
  obtain ⟨hswap, -⟩ := noninterference_of_run? hrun jumpyController
  obtain ⟨final, retold, hfinal, hsame⟩ := hswap 0 1 interruptedMoves steadyMoves directMoves last
    told (by decide) (by simp [interruptedMoves, Move.about?])
    (by simp [steadyMoves, Move.about?]) hmoves
  exact ⟨s, past, last, told, final, retold, hrun, hmoves, hfinal, hsame.views 0, hfirst,
    hsame.views 1, hsecond, houtcome⟩

end Session

end CallGate

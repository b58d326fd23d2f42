import CallGate.Proofs.Session.Flags

/-!
# What One Call Sees

In a session where a controller is at work, an asynchronous call sees its ticket and whether its
controller is interrupted (`Session.view?`), and that is all it sees. A move that is not about the
call leaves its view alone, and a move that is about it does the same wherever the view is the
same, because all that the controller answers to is part of the view (`Session.Answers`). So a call
goes through a run as it would alone, and calls that can go through their moves alone can go
through them together, in whichever order.

## Main results

* `Session.runUnder?_alone`: the moves about one call run without the others, with the same view
  in the end.
* `Session.runUnder?_together`: moves run if those about each call run alone.
-/

namespace CallGate

variable {ω : Type}

/-- The call that an occurrence is of. -/
def Occurrence.call? : Occurrence ω → Option CallName
  | invoked call _ | reported call _ => some call
  | answered position _ => some (.direct position)
  | submitted position | happened position _ => some (.queued position)
  | established _ | cleared _ | loggedIn _ | logged _ | refused _ => none

namespace Session

/-! ### Moves and occurrences of one call -/

/-- The asynchronous call that a move is **about**: somebody acts on it, or its controller
reports. -/
def Move.about? : Move ω → Option Nat
  | act position _ | report (.queued position) _ => some position
  | _ => none

/-- The moves **about** an asynchronous call, in order. -/
def movesOn (position : Nat) (moves : List (Move ω)) : List (Move ω) :=
  moves.filter fun m => m.about? == some position

/-- The **occurrences** of a call, in order. -/
def occurrencesOf (call : CallName) (told : List (Occurrence ω)) : List (Occurrence ω) :=
  told.filter fun o => o.call? == some call

/-- What is seen of an asynchronous call: its ticket, with the flight and whatever has become of
it, and whether its controller is interrupted. -/
structure View (ω : Type) where
  ticket : Ticket ω
  interrupted : Bool

/-- The **view** of an asynchronous call in a session. -/
def view? (s : Session ω) (position : Nat) : Option (View ω) :=
  s.calls[position]?.map fun t => ⟨t, s.signals.isRaised t.interrupt⟩

/-! ### The controller at work -/

/-- Whether a move that ends a run of the controller ends it as a **controller answers**: to the
invocation of the call, and to whether it is interrupted. -/
def Answers (controller : Controller) (s : Session ω) : Move ω → Bool
  | .act position (.finish ending) =>
    (s.view? position).all fun v =>
      ending ==
        (controller.execute (v.ticket.invocation v.ticket.interrupt) v.interrupted).ending
  | .answer position ending =>
    s.direct[position]?.all fun call =>
      ending ==
        (controller.execute call.invocation
          (call.invocation.context.isInterrupted s.signals)).ending
  | _ => true

/-- One step **under a controller**. -/
def stepUnder? [BEq ω] (controller : Controller) (s : Session ω) (m : Move ω) :
    Option (Session ω × List (Occurrence ω)) :=
  if s.Answers controller m then s.step? m else none

/-- An interleaving of moves **under a controller**. -/
def runUnder? [BEq ω] (controller : Controller) (s : Session ω) (moves : List (Move ω)) :
    Option (Session ω × List (Occurrence ω)) :=
  Interleaving.run? (stepUnder? controller) s moves

/-- A session is **reached** from its beginning. -/
def Reached [BEq ω] (s : Session ω) : Prop :=
  ∃ source moves told, ({ source } : Session ω).run? moves = some (s, told)

/-- A session after the flight of a ticket has moved. -/
def withFlight (s : Session ω) (position : Nat) (t : Ticket ω) (flight : Flight ω Reply)
    (effects : List (Effect ω)) : Session ω :=
  { s with
    calls := s.calls.set position { t with flight }
    signals := s.signals.after effects }

variable {s next last other : Session ω} {m : Move ω} {moves : List (Move ω)}
  {new told : List (Occurrence ω)} {position : Nat} {t : Ticket ω} {v : View ω}
  {controller : Controller}

/-- The occurrences in two parts of what was told. -/
theorem occurrencesOf_append (call : CallName) (told more : List (Occurrence ω)) :
    occurrencesOf call (told ++ more) = occurrencesOf call told ++ occurrencesOf call more :=
  List.filter_append ..

/-- What is logged is of no call. -/
theorem occurrencesOf_logged (call : CallName) (events : List Log.Event) :
    occurrencesOf call (events.map (Occurrence.logged (ω := ω))) = [] := by
  rw [occurrencesOf, List.filter_eq_nil_iff]
  intro o hmem
  obtain ⟨event, -, rfl⟩ := List.mem_map.mp hmem
  simp [Occurrence.call?]

/-- What a ticket tells is of its own call. -/
theorem occurrencesOf_of_ne (t : Ticket ω) {moved : Nat} (hother : moved ≠ position)
    (effects : List (Effect ω)) :
    occurrencesOf (.queued position) (effects.map (t.occurrence moved)) = [] := by
  rw [occurrencesOf, List.filter_eq_nil_iff]
  intro o hmem
  obtain ⟨effect, -, rfl⟩ := List.mem_map.mp hmem
  cases effect <;> simpa [Ticket.occurrence, Occurrence.call?] using hother

/-- Moves about a call begin with the first one that is. -/
theorem movesOn_cons_of_eq (h : m.about? = some position) :
    movesOn position (m :: moves) = m :: movesOn position moves :=
  List.filter_cons_of_pos (by rw [h]; exact beq_self_eq_true _)

/-- A move that is not about a call is left out. -/
theorem movesOn_cons_of_ne (h : m.about? ≠ some position) :
    movesOn position (m :: moves) = movesOn position moves :=
  List.filter_cons_of_neg fun heq => h (beq_iff_eq.mp heq)

/-- The moves about a call are about it. -/
theorem about?_of_mem_movesOn (hmem : m ∈ movesOn position moves) : m.about? = some position :=
  beq_iff_eq.mp (List.mem_filter.mp hmem).2

/-- What is seen of a call. -/
theorem view?_eq_some_iff :
    s.view? position = some v ↔
      s.calls[position]? = some v.ticket ∧
        s.signals.isRaised v.ticket.interrupt = v.interrupted := by
  rw [view?, Option.map_eq_some_iff]
  constructor
  · rintro ⟨t, hcall, rfl⟩
    exact ⟨hcall, rfl⟩
  · rintro ⟨hcall, hflag⟩
    exact ⟨v.ticket, hcall, by rw [hflag]⟩

/-- A call that was made can be seen. -/
theorem exists_view?_of_lt (hlt : position < s.calls.length) : ∃ v, s.view? position = some v := by
  rw [view?, List.getElem?_eq_getElem hlt]
  exact ⟨_, rfl⟩

/-- The view of a call whose ticket and flag stay. -/
theorem view?_congr (hcalls : next.calls[position]? = s.calls[position]?)
    (hflag : ∀ t, s.calls[position]? = some t →
      next.signals.isRaised t.interrupt = s.signals.isRaised t.interrupt) :
    next.view? position = s.view? position := by
  rw [view?, view?, hcalls]
  cases hcall : s.calls[position]? with
  | none => rfl
  | some t => rw [Option.map_some, Option.map_some, hflag t hcall]

/-- The view of a call whose flight has moved. -/
theorem view?_withFlight (hcall : s.calls[position]? = some t) (flight : Flight ω Reply)
    (effects : List (Effect ω)) :
    (s.withFlight position t flight effects).view? position =
      some ⟨{ t with flight }, (s.signals.after effects).isRaised t.interrupt⟩ := by
  obtain ⟨hlt, -⟩ := List.getElem?_eq_some_iff.mp hcall
  rw [view?, withFlight, List.getElem?_set_self hlt]
  rfl

/-- A controller answers a move about a call by the **view** of that call. -/
theorem answers_congr (habout : m.about? = some position)
    (hview : other.view? position = s.view? position) :
    other.Answers controller m = s.Answers controller m := by
  cases m with
  | act moved action =>
      obtain rfl := Option.some.inj habout
      cases action with
      | finish ending => rw [Answers, Answers, hview]
      | _ => rfl
  | report call report => rfl
  | _ => cases habout

variable [BEq ω]

/-! ### Sessions that are reached -/

/-- The flags of a session that is reached are distinct. -/
theorem Reached.distinct (h : s.Reached) : s.Distinct := by
  obtain ⟨_, _, _, hrun⟩ := h
  exact (distinct_of_run? hrun).1

/-- The calls of a session that is reached are recorded. -/
theorem Reached.recorded (h : s.Reached) : ∃ moves, Recorded moves s := by
  obtain ⟨_, moves, _, hrun⟩ := h
  exact ⟨moves, (distinct_of_run? hrun).2⟩

/-- A step goes on from a session that is reached. -/
theorem Reached.step (h : s.Reached) (hstep : s.step? m = some (next, new)) : next.Reached := by
  obtain ⟨source, moves, told, hrun⟩ := h
  refine ⟨source, moves ++ [m], told ++ new, Interleaving.run?_append.mpr ?_⟩
  exact ⟨s, told, new, hrun, Interleaving.run?_cons.mpr ⟨next, new, [], hstep, rfl,
    List.append_nil new⟩, rfl⟩

/-- A step under a controller is a step that the controller answers. -/
theorem stepUnder?_eq_some_iff :
    s.stepUnder? controller m = some (next, new) ↔
      s.Answers controller m = true ∧ s.step? m = some (next, new) :=
  Option.ite_none_right_eq_some

/-! ### Moves about other calls -/

/-- A move about a call leaves the **view of every other call** alone. -/
theorem Step.view?_eq {moved : Nat} (hstep : Step s m next new) (hreached : s.Reached)
    (habout : m.about? = some moved) (hother : moved ≠ position) :
    next.view? position = s.view? position := by
  cases hstep with
  | @acted _ _ ticket _ effects hcall hmoved =>
      obtain rfl := Option.some.inj habout
      obtain ⟨moves, hrecorded⟩ := hreached.recorded
      obtain ⟨-, hown⟩ := (hrecorded.onRecord hcall).act hmoved
      refine view?_congr (List.getElem?_set_ne hother) fun t ht => ?_
      exact isRaised_after_of_ne hown (hreached.distinct.interrupt_ne hcall ht hother)
  | reported => rfl
  | _ => cases habout

/-- A move that is not about a call leaves **its view** alone and tells nothing of it, once it is
made. -/
theorem Step.elsewhere (hstep : Step s m next new) (hreached : s.Reached)
    (hview : s.view? position = some v) (hother : m.about? ≠ some position) :
    next.view? position = some v ∧ occurrencesOf (.queued position) new = [] := by
  obtain ⟨hcall, -⟩ := view?_eq_some_iff.mp hview
  obtain ⟨hlt, -⟩ := List.getElem?_eq_some_iff.mp hcall
  cases hstep with
  | @acted moved _ ticket _ _ _ hmoved =>
      have hne : moved ≠ position := fun h => hother (congrArg some h)
      refine ⟨?_, occurrencesOf_of_ne ticket hne _⟩
      rw [← hview]
      exact Step.view?_eq (.acted ‹_› hmoved) hreached rfl hne
  | accepted =>
      refine ⟨?_, ?_⟩
      · rw [← hview]
        exact view?_congr (List.getElem?_append_left hlt) fun _ _ => rfl
      · have hne : s.calls.length ≠ position := by omega
        simpa [occurrencesOf, Occurrence.call?] using hne
  | loggedIn | rebuffed =>
      exact ⟨hview, by rw [occurrencesOf_append, occurrencesOf_logged]; rfl⟩
  | @reported call report handler =>
      refine ⟨hview, ?_⟩
      have hne : call ≠ .queued position := by
        rintro rfl
        exact hother rfl
      rw [occurrencesOf, List.filter_cons_of_neg (by simpa [Occurrence.call?] using hne)]
      exact occurrencesOf_logged _ _
  | _ => exact ⟨hview, rfl⟩

/-! ### Moves about a call -/

/-- An action on a call, step by step. -/
theorem step?_act_eq_some_iff {action : Action ω} :
    s.step? (.act position action) = some (next, new) ↔
      ∃ t flight effects, s.calls[position]? = some t ∧
        t.step? action = some (flight, effects) ∧
        next = s.withFlight position t flight effects ∧
        new = effects.map (t.occurrence position) := by
  constructor
  · intro hstep
    cases step_of_step? hstep with
    | acted hcall hmoved => exact ⟨_, _, _, hcall, hmoved, rfl, rfl⟩
  · rintro ⟨t, flight, effects, hcall, hmoved, rfl, rfl⟩
    rw [step?, act?, hcall]
    exact Option.map_eq_some_iff.mpr ⟨_, hmoved, rfl⟩

/-- A move about a call does **the same wherever its view is the same**. -/
theorem stepUnder?_congr (habout : m.about? = some position)
    (hview : other.view? position = s.view? position)
    (hstep : s.stepUnder? controller m = some (next, new)) :
    ∃ last, other.stepUnder? controller m = some (last, new) ∧
      last.view? position = next.view? position := by
  obtain ⟨hanswers, hstep⟩ := stepUnder?_eq_some_iff.mp hstep
  rw [← answers_congr habout hview] at hanswers
  cases m with
  | act moved action =>
      obtain rfl := Option.some.inj habout
      obtain ⟨t, flight, effects, hcall, hmoved, rfl, rfl⟩ := step?_act_eq_some_iff.mp hstep
      have hsees : s.view? moved = some ⟨t, s.signals.isRaised t.interrupt⟩ :=
        view?_eq_some_iff.mpr ⟨hcall, rfl⟩
      rw [hsees] at hview
      obtain ⟨hother, hflag⟩ := view?_eq_some_iff.mp hview
      refine ⟨_, stepUnder?_eq_some_iff.mpr ⟨hanswers, step?_act_eq_some_iff.mpr
        ⟨t, flight, effects, hother, hmoved, rfl, rfl⟩⟩, ?_⟩
      have hafter : (other.signals.after effects).isRaised t.interrupt =
          (s.signals.after effects).isRaised t.interrupt := by
        rw [Bool.eq_iff_iff, Signals.isRaised_after, Signals.isRaised_after, hflag]
      rw [view?_withFlight hother, view?_withFlight hcall, hafter]
  | report call report =>
      cases call with
      | direct position => cases habout
      | queued moved =>
          obtain rfl := Option.some.inj habout
          cases step_of_step? hstep with
          | @reported _ _ handler hhandler =>
              have hcalls : other.calls[moved]? = s.calls[moved]? := by
                have htickets := congrArg (Option.map View.ticket) hview
                simpa [view?, Function.comp_def] using htickets
              have hsame : other.handler? (.queued moved) = some handler := by
                rw [handler?, hcalls]
                exact hhandler
              refine ⟨other, stepUnder?_eq_some_iff.mpr ⟨hanswers, ?_⟩, hview⟩
              rw [step?, report?, hsame]
              rfl
  | _ => cases habout

/-- A call that was made stays made. -/
theorem Step.exists_view? (hstep : Step s m next new) (hview : s.view? position = some v) :
    ∃ w, next.view? position = some w := by
  obtain ⟨hcall, -⟩ := view?_eq_some_iff.mp hview
  obtain ⟨hlt, -⟩ := List.getElem?_eq_some_iff.mp hcall
  exact exists_view?_of_lt (Nat.lt_of_lt_of_le hlt hstep.length_le.2)

/-! ### Runs -/

/-- A run under a controller goes on from a session that is reached. -/
theorem Reached.run (h : s.Reached) (hrun : s.runUnder? controller moves = some (last, told)) :
    last.Reached := by
  induction moves generalizing s told with
  | nil =>
      obtain ⟨rfl, -⟩ := Interleaving.run?_nil.mp hrun
      exact h
  | cons m rest ih =>
      obtain ⟨next, _, _, hstep, hlater, -⟩ := Interleaving.run?_cons.mp hrun
      exact ih (h.step (stepUnder?_eq_some_iff.mp hstep).2) hlater

/-- Moves about one call run **the same wherever its view is the same**. -/
theorem runUnder?_congr (habout : ∀ m ∈ moves, m.about? = some position)
    (hview : other.view? position = s.view? position)
    (hrun : s.runUnder? controller moves = some (last, told)) :
    ∃ final, other.runUnder? controller moves = some (final, told) ∧
      final.view? position = last.view? position := by
  induction moves generalizing s other told with
  | nil =>
      obtain ⟨rfl, rfl⟩ := Interleaving.run?_nil.mp hrun
      exact ⟨other, rfl, hview⟩
  | cons m rest ih =>
      obtain ⟨hm, hrest⟩ := List.forall_mem_cons.mp habout
      obtain ⟨next, first, later, hstep, hlater, rfl⟩ := Interleaving.run?_cons.mp hrun
      obtain ⟨middle, hmiddle, hview⟩ := stepUnder?_congr hm hview hstep
      obtain ⟨final, hfinal, hview⟩ := ih hrest hview hlater
      exact ⟨final, Interleaving.run?_cons.mpr ⟨middle, first, later, hmiddle, hfinal, rfl⟩, hview⟩

/-- **A call goes through a run alone**: the moves about it run without the others, tell the same
of it, and leave it with the same view. -/
theorem runUnder?_alone (hreached : s.Reached) (hview : s.view? position = some v)
    (hrun : s.runUnder? controller moves = some (last, told)) :
    ∃ final alone, s.runUnder? controller (movesOn position moves) = some (final, alone) ∧
      final.view? position = last.view? position ∧
      occurrencesOf (.queued position) alone = occurrencesOf (.queued position) told := by
  induction moves generalizing s v told with
  | nil =>
      obtain ⟨rfl, rfl⟩ := Interleaving.run?_nil.mp hrun
      exact ⟨s, [], rfl, rfl, rfl⟩
  | cons m rest ih =>
      obtain ⟨next, first, later, hstep, hlater, rfl⟩ := Interleaving.run?_cons.mp hrun
      obtain ⟨-, hplain⟩ := stepUnder?_eq_some_iff.mp hstep
      have hnext := hreached.step hplain
      by_cases habout : m.about? = some position
      · obtain ⟨w, hw⟩ := (step_of_step? hplain).exists_view? hview
        obtain ⟨final, alone, hfinal, hsees, htold⟩ := ih hnext hw hlater
        refine ⟨final, first ++ alone, ?_, hsees, ?_⟩
        · rw [movesOn_cons_of_eq habout]
          exact Interleaving.run?_cons.mpr ⟨next, first, alone, hstep, hfinal, rfl⟩
        · rw [occurrencesOf_append, occurrencesOf_append, htold]
      · obtain ⟨hstays, hquiet⟩ := (step_of_step? hplain).elsewhere hreached hview habout
        obtain ⟨_, alone, hfinal, hsees, htold⟩ := ih hnext hstays hlater
        obtain ⟨final, hfinal, hview⟩ :=
          runUnder?_congr (fun _ => about?_of_mem_movesOn) (hview.trans hstays.symm) hfinal
        refine ⟨final, alone, ?_, hview.trans hsees, ?_⟩
        · rw [movesOn_cons_of_ne habout]
          exact hfinal
        · rw [occurrencesOf_append, hquiet, List.nil_append, htold]

/-- **Calls go through a run together**: moves about calls run if those about each call run
alone. -/
theorem runUnder?_together (hreached : s.Reached)
    (habout : ∀ m ∈ moves, m.about?.isSome = true)
    (halone : ∀ position, (s.runUnder? controller (movesOn position moves)).isSome = true) :
    ∃ last told, s.runUnder? controller moves = some (last, told) := by
  induction moves generalizing s with
  | nil => exact ⟨s, [], rfl⟩
  | cons m rest ih =>
      obtain ⟨hm, hrest⟩ := List.forall_mem_cons.mp habout
      obtain ⟨moved, hmoved⟩ := Option.isSome_iff_exists.mp hm
      -- The first move runs, because it is the first of the moves about its call.
      obtain ⟨⟨_, _⟩, hown⟩ := Option.isSome_iff_exists.mp (halone moved)
      rw [movesOn_cons_of_eq hmoved] at hown
      obtain ⟨next, first, _, hstep, hown, -⟩ := Interleaving.run?_cons.mp hown
      obtain ⟨-, hplain⟩ := stepUnder?_eq_some_iff.mp hstep
      -- Those about the other calls run after it, because their views are as they were.
      have hlater : ∀ position,
          (next.runUnder? controller (movesOn position rest)).isSome = true := by
        intro position
        by_cases hsame : moved = position
        · subst hsame
          exact Option.isSome_iff_exists.mpr ⟨_, hown⟩
        · have hother : m.about? ≠ some position := by
            rw [hmoved]
            exact fun h => hsame (Option.some.inj h)
          have hview := (step_of_step? hplain).view?_eq hreached hmoved hsame
          obtain ⟨⟨_, _⟩, hothers⟩ := Option.isSome_iff_exists.mp (halone position)
          rw [movesOn_cons_of_ne hother] at hothers
          obtain ⟨_, hothers, -⟩ :=
            runUnder?_congr (fun _ => about?_of_mem_movesOn) hview hothers
          exact Option.isSome_iff_exists.mpr ⟨_, hothers⟩
      obtain ⟨last, later, hlast⟩ := ih (hreached.step hplain) hrest hlater
      exact ⟨last, first ++ later,
        Interleaving.run?_cons.mpr ⟨next, first, later, hstep, hlast, rfl⟩⟩

end Session

end CallGate

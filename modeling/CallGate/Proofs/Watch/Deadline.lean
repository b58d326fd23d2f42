import CallGate.Proofs.Watch.Agreement

/-!
# Waiting until a Deadline

A wait within a limit computes its deadline before it looks at the call. On the line of
nanoseconds the deadline is the exact sum of the present and the limit (`Instant.add?_eq_some_iff`),
and there is one as long as the sum has 64 bits of seconds. A longer limit has no deadline, and
the wait is broken off with no status, even that of a call which is already over.

A wait that has a deadline ends in time. Each move of the one who waits leaves it waiting or ends
the wait with the status that the slot shows; it ends without an outcome only when the deadline
has passed, and it can end whenever there is an outcome or the deadline has passed.

## Main results

* `Instant.add?_eq_some_iff`, `Instant.add?_eq_none_iff`: which deadlines there are.
* `Watch.deadline_of_run?`: how waits within a limit begin, go on and end.
* `Watch.brokenOff_longest`: a wait for a settled call that never tells its status.
-/

namespace CallGate

/-! ### The line of nanoseconds -/

/-- The nanoseconds of a span. -/
def Span.total (d : Span) : Int := d.seconds.toNat * 1_000_000_000 + d.nanos

/-- The nanoseconds from the origin of the clock to an instant. -/
def Instant.total (t : Instant) : Int := t.seconds * 1_000_000_000 + t.nanos

namespace Instant

/-- Instants are told apart by their nanoseconds. -/
theorem eq_of_total_eq {t u : Instant} (h : t.total = u.total) : t = u := by
  obtain ⟨seconds, nanos, hge, hlt, hnanos⟩ := t
  obtain ⟨seconds', nanos', hge', hlt', hnanos'⟩ := u
  simp only [total, nanosPerSecond] at h hnanos hnanos'
  have hseconds : seconds = seconds' := by omega
  have hrest : nanos = nanos' := by omega
  subst hseconds hrest
  rfl

/-- Instants lie between the first and the last one. -/
theorem total_bounds (t : Instant) :
    -9_223_372_036_854_775_808 * 1_000_000_000 ≤ t.total ∧
      t.total < 9_223_372_036_854_775_808 * 1_000_000_000 := by
  have hge := t.seconds_ge
  have hlt := t.seconds_lt
  have hnanos := t.nanos_lt
  simp only [nanosPerSecond] at hnanos
  constructor <;> unfold total <;> omega

/-- An instant is made of seconds and nanoseconds that have room. -/
theorem ofParts?_eq_some_iff {seconds : Int} {nanos : Nat} {h : nanos < nanosPerSecond}
    {u : Instant} :
    ofParts? seconds nanos h = some u ↔ u.total = seconds * 1_000_000_000 + nanos := by
  unfold ofParts?
  have hnanos := h
  simp only [nanosPerSecond] at hnanos
  constructor
  · intro hparts
    split at hparts
    next => rw [← Option.some.inj hparts, total]
    next => cases hparts
  · intro htotal
    have hge := u.seconds_ge
    have hlt := u.seconds_lt
    have hlast := u.nanos_lt
    simp only [nanosPerSecond] at hlast
    have hseconds : seconds = u.seconds := by unfold total at htotal; omega
    have hroom : -9_223_372_036_854_775_808 ≤ seconds ∧ seconds < 9_223_372_036_854_775_808 := by
      omega
    rw [dif_pos hroom, Option.some.injEq]
    exact eq_of_total_eq htotal.symm

/-- **A deadline is the exact sum** of an instant and a span. -/
theorem add?_eq_some_iff {t u : Instant} {d : Span} :
    t.add? d = some u ↔ u.total = t.total + d.total := by
  unfold add?
  dsimp only
  split
  next h =>
    rw [ofParts?_eq_some_iff, total, Span.total, total]
    constructor <;> intro htotal <;> omega
  next h =>
    simp only [nanosPerSecond] at h
    rw [ofParts?_eq_some_iff, total, Span.total, total]
    simp only [nanosPerSecond]
    constructor <;> intro htotal <;> omega

/-- Between the first and the last instant, all nanoseconds are those of an instant. -/
theorem exists_total_eq {n : Int} (hge : -9_223_372_036_854_775_808 * 1_000_000_000 ≤ n)
    (hlt : n < 9_223_372_036_854_775_808 * 1_000_000_000) : ∃ u : Instant, u.total = n := by
  have hnanos : (n % 1_000_000_000).toNat < nanosPerSecond := by
    simp only [nanosPerSecond]
    omega
  refine ⟨⟨n / 1_000_000_000, (n % 1_000_000_000).toNat, by omega, by omega, hnanos⟩, ?_⟩
  simp only [total]
  omega

/-- **A limit is too long** when the sum is behind the last instant. -/
theorem add?_eq_none_iff {t : Instant} {d : Span} :
    t.add? d = none ↔ 9_223_372_036_854_775_808 * 1_000_000_000 ≤ t.total + d.total := by
  constructor
  · intro hnone
    refine Int.not_lt.mp fun hroom => ?_
    have hspan : 0 ≤ d.total := by unfold Span.total; omega
    obtain ⟨hge, -⟩ := t.total_bounds
    obtain ⟨u, htotal⟩ := exists_total_eq (by omega) hroom
    rw [add?_eq_some_iff.mpr htotal] at hnone
    cases hnone
  · intro hlong
    cases hsum : t.add? d with
    | none => rfl
    | some u =>
        have htotal := add?_eq_some_iff.mp hsum
        obtain ⟨-, hlt⟩ := u.total_bounds
        omega

/-- A deadline has come when no nanosecond is left. -/
theorem reached_iff {deadline now : Instant} :
    deadline.reached now = true ↔ deadline.total ≤ now.total := by
  have hdeadline := deadline.nanos_lt
  have hnow := now.nanos_lt
  simp only [nanosPerSecond] at hdeadline hnow
  simp only [reached, Bool.or_eq_true, Bool.and_eq_true, decide_eq_true_eq, beq_iff_eq, total]
  omega

end Instant

namespace Watch

variable {ω α : Type} [BEq ω] {convert : Response → α} {w next last : Watch ω α} {m : Move ω}
  {seen told : List (Sighting α)} {position : Nat} {x : Watcher} {deadline : Instant}

/-! ### The moves of one who waits -/

/-- The moves of one who **waits** at a position. -/
def Move.waits (position : Nat) : Move ω → Prop
  | look moved | expire moved => moved = position
  | _ => False

/-- What the **end** of a wait shows: the status of the outcome in the slot, or that of a call that
waits, and then the deadline has passed. -/
structure EndsWith (w : Watch ω α) (deadline : Instant) (status : Status) : Prop where
  terminal : ∀ outcome, w.flight.call.outcome? = some outcome →
    status = outcome.status ∧ status ≠ .waiting
  waiting : w.flight.call.outcome? = none → status = .waiting ∧ deadline.total ≤ w.now.total

/-- A watcher keeps its place and its deadline. -/
theorem Step.deadline_eq (hstep : Step convert w m next seen)
    (hx : w.watchers[position]? = some x) :
    ∃ y, next.watchers[position]? = some y ∧ y.deadline = x.deadline := by
  obtain ⟨hlt, hget⟩ := List.getElem?_eq_some_iff.mp hx
  cases hstep with
  | acted =>
      dsimp only
      split
      · refine ⟨x.woken, by simp [hx], ?_⟩
        unfold Watcher.woken
        split <;> rfl
      · exact ⟨x, hx, rfl⟩
  | ticked | brokenOff => exact ⟨x, hx, rfl⟩
  | began | limited => exact ⟨x, by rw [joined, List.getElem?_append_left hlt, hx], rfl⟩
  | @found moved y _ hy | @slept moved y hy | @expired moved y _ hy =>
      by_cases hmoved : moved = position
      · subst hmoved
        obtain rfl : x = y := Option.some.inj (hx.symm.trans hy)
        exact ⟨_, List.getElem?_set_self hlt, rfl⟩
      · exact ⟨x, by rw [List.getElem?_set_ne hmoved, hx], rfl⟩

/-- After a run, a watcher still has its place and its deadline. -/
theorem deadline_eq_of_run? {moves : List (Move ω)} (hx : w.watchers[position]? = some x)
    (hrun : w.run? convert moves = some (last, told)) :
    ∃ y, last.watchers[position]? = some y ∧ y.deadline = x.deadline := by
  refine run?_induction (P := fun _ _ w => ∃ y, w.watchers[position]? = some y ∧
    y.deadline = x.deadline) (fun h hstep => ?_) [] [] ⟨x, hx, rfl⟩ hrun
  obtain ⟨y, hy, hdeadline⟩ := h
  obtain ⟨z, hz, hkept⟩ := hstep.deadline_eq hy
  exact ⟨z, hz, hkept.trans hdeadline⟩

/-- A move of one who waits tells nothing, or it **ends the wait** as it has to. -/
theorem Step.endsWith (hstep : Step convert w m next seen) (hmove : m.waits position)
    (hx : w.watchers[position]? = some x) (hdeadline : x.deadline = some deadline) :
    seen = [] ∨ ∃ status, seen = [.waited deadline status] ∧ w.EndsWith deadline status := by
  cases hstep with
  | acted | ticked | began | limited | brokenOff => cases hmove
  | slept => exact .inl rfl
  | @found _ y outcome hy hdone =>
      obtain rfl : _ = position := hmove
      obtain rfl : x = y := Option.some.inj (hx.symm.trans hy)
      refine .inr ⟨outcome.status, by simp [Watcher.sighting, hdeadline], ?_, ?_⟩
      · intro written hwritten
        obtain rfl := Option.some.inj (hdone.symm.trans hwritten)
        exact ⟨rfl, outcome.status_ne_waiting⟩
      · intro hnone
        simp [hdone] at hnone
  | @expired _ y missed hy hmissed =>
      obtain rfl : _ = position := hmove
      obtain rfl : x = y := Option.some.inj (hx.symm.trans hy)
      have hsame : missed = deadline := by
        unfold Watcher.missed? at hmissed
        split at hmissed
        · rw [hdeadline] at hmissed
          exact (Option.some.inj (Option.filter_eq_some_iff.mp hmissed).1).symm
        all_goals cases hmissed
      subst hsame
      refine .inr ⟨w.flight.call.status, rfl, ?_, ?_⟩
      · intro outcome hdone
        rw [Call.status_of_outcome? hdone]
        exact ⟨rfl, outcome.status_ne_waiting⟩
      · intro hnone
        exact ⟨Call.status_of_waiting hnone,
          Instant.reached_iff.mp (Watcher.reached_of_missed? hmissed)⟩

/-- One who sleeps through its deadline looks for the last time. -/
theorem expire_of_asleep (hx : w.watchers[position]? = some x)
    (hdeadline : x.deadline = some deadline) (hasleep : x.phase = .asleep false)
    (hreached : deadline.reached w.now = true) :
    ∃ next, w.step? convert (.expire position) =
      some (next, [.waited deadline w.flight.call.status]) := by
  have hmissed : x.missed? w.now = some deadline := by
    rw [Watcher.missed?, hasleep, hdeadline]
    exact Option.filter_eq_some_iff.mpr ⟨rfl, hreached⟩
  refine ⟨{ w with watchers := w.watchers.set position { x with phase := .through } }, ?_⟩
  simp only [step?, expire?, hx, hmissed, Option.map_some]
  rfl

/-- A watch after one who waits has fallen asleep. -/
def asleepAt (w : Watch ω α) (position : Nat) (x : Watcher) : Watch ω α :=
  { w with watchers := w.watchers.set position { x with phase := .asleep false } }

/-- One who may look and finds no outcome falls asleep. -/
theorem look_of_mayLook (hx : w.watchers[position]? = some x) (hmay : x.mayLook = true)
    (hnone : w.flight.call.outcome? = none) :
    w.step? convert (.look position) = some (w.asleepAt position x, []) := by
  simp only [step?, look?, hx, hmay, if_true, Watcher.look, hnone, asleepAt]

/-- One who is asleep or about to look, and finds no outcome, can sleep through its deadline. -/
theorem exists_end_of_none (hx : w.watchers[position]? = some x)
    (hdeadline : x.deadline = some deadline) (hwaits : x.phase ≠ .through)
    (hnone : w.flight.call.outcome? = none) (hreached : deadline.reached w.now = true) :
    ∃ moves final, (∀ m ∈ moves, m.waits position) ∧
      w.run? convert moves = some (final, [.waited deadline w.flight.call.status]) := by
  by_cases hasleep : x.phase = .asleep false
  · obtain ⟨final, hexpire⟩ : ∃ final, w.step? convert (.expire position) =
        some (final, [.waited deadline w.flight.call.status]) :=
      expire_of_asleep hx hdeadline hasleep hreached
    refine ⟨[.expire position], final, List.forall_mem_singleton.mpr rfl, ?_⟩
    exact Interleaving.run?_cons.mpr ⟨final, _, [], hexpire, rfl, rfl⟩
  -- It has yet to look, so it falls asleep first.
  have hmay : x.mayLook = true := by
    unfold Watcher.mayLook
    split <;> simp_all
  obtain ⟨hlt, -⟩ := List.getElem?_eq_some_iff.mp hx
  have hlook : w.step? convert (.look position) = some (w.asleepAt position x, []) :=
    look_of_mayLook hx hmay hnone
  obtain ⟨final, hexpire⟩ : ∃ final, (w.asleepAt position x).step? convert (.expire position) =
      some (final, [.waited deadline w.flight.call.status]) :=
    expire_of_asleep (List.getElem?_set_self hlt) hdeadline rfl hreached
  refine ⟨[.look position, .expire position], final, by simp [Move.waits], ?_⟩
  exact Interleaving.run?_cons.mpr ⟨_, [], _, hlook,
    Interleaving.run?_cons.mpr ⟨final, _, [], hexpire, rfl, rfl⟩, rfl⟩

/-- A wait **can end** by its own moves as soon as there is an outcome or its deadline has
passed. -/
theorem Alert.exists_end (h : w.Alert) (hx : w.watchers[position]? = some x)
    (hdeadline : x.deadline = some deadline) (hwaits : x.phase ≠ .through)
    (hdue : w.flight.call.outcome? ≠ none ∨ deadline.total ≤ w.now.total) :
    ∃ moves final, (∀ m ∈ moves, m.waits position) ∧
      w.run? convert moves = some (final, [.waited deadline w.flight.call.status]) := by
  cases hslot : w.flight.call.outcome? with
  | some outcome =>
      obtain ⟨final, hlook⟩ : ∃ final,
          w.step? convert (.look position) = some (final, [x.sighting outcome]) :=
        h.look?_eq hslot hx hwaits
      refine ⟨[.look position], final, List.forall_mem_singleton.mpr rfl, ?_⟩
      have hsighting : x.sighting outcome = .waited deadline w.flight.call.status := by
        rw [Watcher.sighting, hdeadline, Call.status_of_outcome? hslot]
      rw [hsighting] at hlook
      exact Interleaving.run?_cons.mpr ⟨final, _, [], hlook, rfl, rfl⟩
  | none =>
      have hreached : deadline.reached w.now = true := by
        refine Instant.reached_iff.mpr (hdue.resolve_left ?_)
        simp [hslot]
      exact exists_end_of_none hx hdeadline hwaits hslot hreached

/-- A wait until a deadline **keeps time** at a moment of a watch. -/
structure KeepsTime (convert : Response → α) (position : Nat) (deadline : Instant)
    (w : Watch ω α) : Prop where
  /-- A move of the one who waits tells nothing, or ends the wait with the status of the slot. -/
  ends : ∀ m next seen, m.waits position → w.step? convert m = some (next, seen) →
    seen = [] ∨ ∃ status, seen = [.waited deadline status] ∧ w.EndsWith deadline status
  /-- An outcome that is in the slot is not missed, whenever the wait ends. -/
  settled : ∀ outcome, w.flight.call.outcome? = some outcome →
    ∀ later last told, w.run? convert later = some (last, told) →
      ∀ status, .waited deadline status ∈ told → status = outcome.status ∧ status ≠ .waiting
  /-- A wait that is not over can end once there is an outcome or the deadline has passed. -/
  canEnd : ∃ x, w.watchers[position]? = some x ∧
    (x.phase ≠ .through → w.flight.call.outcome? ≠ none ∨ deadline.total ≤ w.now.total →
      ∃ moves final, (∀ m ∈ moves, m.waits position) ∧
        w.run? convert moves = some (final, [.waited deadline w.flight.call.status]))

/-! ### Every run -/

/-- A wait that has begun keeps time in every run. -/
theorem keepsTime_of_run? {later : List (Move ω)} (halert : w.Alert)
    (hx : w.watchers[position]? = some x) (hdeadline : x.deadline = some deadline)
    (hlater : w.run? convert later = some (last, told)) :
    last.KeepsTime convert position deadline := by
  obtain ⟨y, hy, hkept⟩ := deadline_eq_of_run? hx hlater
  rw [hdeadline] at hkept
  have hawake : last.Alert :=
    run?_induction (P := fun _ _ w => w.Alert) (fun h hstep => h.step hstep) [] [] halert hlater
  refine ⟨fun m final new hmove hstep => ?_, ?_, y, hy, hawake.exists_end hy hkept⟩
  · exact (step_of_step? hstep).endsWith hmove hy hkept
  · intro outcome hdone after final new hafter status hwaited
    exact (agrees_of_run? hafter hdone).2 _ hwaited

/-- **Waiting until a deadline.** Whatever has happened to a call, a wait within a limit has its
deadline at the exact sum of the present and the limit, as long as that sum has 64 bits of
seconds, and then keeps time whatever goes on. If the sum has more, the wait is broken off without
a status. -/
theorem deadline_of_run? {start : Instant} {moves : List (Move ω)} {limit : Span}
    (hrun : ({ now := start } : Watch ω α).run? convert moves = some (w, seen)) :
    (w.now.total + limit.total < 9_223_372_036_854_775_808 * 1_000_000_000 →
      ∃ deadline next, deadline.total = w.now.total + limit.total ∧
        w.step? convert (.wait limit) = some (next, []) ∧
        ∀ later last told, next.run? convert later = some (last, told) →
          last.KeepsTime convert w.watchers.length deadline) ∧
    (9_223_372_036_854_775_808 * 1_000_000_000 ≤ w.now.total + limit.total →
      w.step? convert (.wait limit) = some (w, []) ∧ w.waitAlone convert limit = none) := by
  refine ⟨fun hroom => ?_, fun hlong => ?_⟩
  · obtain ⟨deadline, hdeadline⟩ : ∃ deadline, w.now.add? limit = some deadline := by
      cases hsum : w.now.add? limit with
      | none =>
          have hlong := Instant.add?_eq_none_iff.mp hsum
          omega
      | some deadline => exact ⟨deadline, rfl⟩
    have hbegin : w.step? convert (.wait limit) = some (w.joined (some deadline), []) := by
      simp only [step?, hdeadline]
    have halert := (alert_of_run? hrun).step (step_of_step? hbegin)
    have hjoined : (w.joined (some deadline)).watchers[w.watchers.length]? =
        some { deadline := some deadline } := by simp [joined]
    exact ⟨deadline, _, Instant.add?_eq_some_iff.mp hdeadline, hbegin,
      fun later last told hlater => keepsTime_of_run? halert hjoined rfl hlater⟩
  · have hnone := Instant.add?_eq_none_iff.mpr hlong
    exact ⟨by simp only [step?, hnone], by rw [waitAlone, hnone, Option.bind_none]⟩

/-- A call is cancelled before its task is run. -/
def cancelledMoves : List (Move Nat) :=
  [.act (.cancel false false), .act .settle, .act .release]

/-- A wait of a second for the cancelled call can end at once, and tells that it is cancelled. -/
theorem timely_cancelledMoves :
    ∃ w seen next deadline moves final,
      ({ now := .origin } : Watch Nat Json).run? Response.node cancelledMoves = some (w, seen) ∧
        w.step? Response.node (.wait (.ofMillis 1000)) = some (next, []) ∧
        deadline.total = 1_000_000_000 ∧
        next.run? Response.node moves = some (final, [.waited deadline .cancelled]) := by
  obtain ⟨w, seen, next, x, hrun, hbegin, hsum, hplace, hx, hwaits, hdone, hstatus⟩ :
      ∃ w seen next x,
        ({ now := .origin } : Watch Nat Json).run? Response.node cancelledMoves = some (w, seen) ∧
          w.step? Response.node (.wait (.ofMillis 1000)) = some (next, []) ∧
          w.now.total + (Span.ofMillis 1000).total = 1_000_000_000 ∧ w.watchers.length = 0 ∧
          next.watchers[0]? = some x ∧ x.phase = .arriving ∧
          next.flight.call.outcome? = some .cancelled ∧ next.flight.call.status = .cancelled :=
    ⟨_, _, _, _, rfl, rfl, rfl, rfl, rfl, rfl, rfl, rfl⟩
  obtain ⟨deadline, again, htotal, hagain, hkeeps⟩ :=
    (deadline_of_run? hrun).1 (by rw [hsum]; decide)
  obtain rfl : next = again := (Prod.mk.inj (Option.some.inj (hbegin.symm.trans hagain))).1
  obtain ⟨-, -, y, hy, hend⟩ := hkeeps [] next [] rfl
  rw [hplace] at hy
  obtain rfl : x = y := Option.some.inj (hx.symm.trans hy)
  obtain ⟨moves, final, -, hfinal⟩ := hend (by simp [hwaits]) (.inl (by simp [hdone]))
  rw [hstatus] at hfinal
  exact ⟨w, seen, next, deadline, moves, final, hrun, hbegin, htotal.trans hsum, hfinal⟩

/-- The longest span. -/
def longest : Span := ⟨18_446_744_073_709_551_615, 999_999_999, by decide⟩

/-- A wait for the cancelled call is broken off if its limit is the longest span: it never tells
that the call is cancelled. -/
theorem brokenOff_longest :
    ∃ w seen,
      ({ now := .origin } : Watch Nat Json).run? Response.node cancelledMoves = some (w, seen) ∧
        w.flight.call.status = .cancelled ∧
        w.step? Response.node (.wait longest) = some (w, []) ∧
        w.waitAlone Response.node longest = none :=
  ⟨_, _, rfl, rfl, rfl, rfl⟩

end Watch

end CallGate

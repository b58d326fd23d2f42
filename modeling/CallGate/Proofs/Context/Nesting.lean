import CallGate.Context.Walk
import Mathlib.Logic.Function.Iterate

/-!
# What Nested Contexts Show

An action nested any number of levels inside the boundary is a way in, the action, and the way out
again (`ExecutionContext.descend_eq`). On a walk every level therefore has the context it would have
by its depth alone, and has it again on the way out: the marker comes from the depth, everything
else from the outermost context. The flag is the one thing that is shared, and it is seen to be
raised at every look that comes after the moment it was raised (`Walk.raisedBy`), wherever that was.

## Main results

* `ExecutionContext.descend_eq` — the order in which the levels are entered and left.
* `Walk.observe_eq` — everything that is seen on a walk, and what it returns.
* `Walk.nesting_of_observe` — the marker, the identity, the request, the flag and the result at
  every depth of every walk, and the context of a walk that comes later.
-/

namespace CallGate

namespace Signals

variable {s : Signals} {flag : Interrupt}

/-- Flags are **kept well** if nobody has raised one that was not handed out. -/
def Kept (s : Signals) : Prop :=
  ∀ flag, s.isRaised flag = true → flag.number < s.handedOut

/-- No flags are kept well. -/
theorem kept_empty : Kept {} := nofun

/-- A fresh flag is not raised. -/
theorem Kept.isRaised_fresh (h : s.Kept) : s.isRaised s.fresh.1 = false :=
  Bool.eq_false_iff.mpr fun hraised => absurd (h _ hraised) (Nat.lt_irrefl _)

/-- Flags are still kept well when one more is handed out. -/
theorem Kept.fresh (h : s.Kept) : s.fresh.2.Kept :=
  fun flag hraised => Nat.lt_succ_of_lt (h flag hraised)

/-- Raising a flag hands none out. -/
theorem handedOut_raise : (s.raise flag).handedOut = s.handedOut := by
  rw [raise]
  split <;> rfl

/-- Flags are still kept well when one of those handed out is raised. -/
theorem Kept.raise (h : s.Kept) (hflag : flag.number < s.handedOut) : (s.raise flag).Kept := by
  intro other hraised
  rw [handedOut_raise]
  rcases (isRaised_raise s other flag).mp hraised with hpast | rfl
  · exact h other hpast
  · exact hflag

end Signals

namespace ExecutionContext

variable {σ α : Type} {before after : Nat → ExecutionContext → σ → σ}
  {action : ExecutionContext → σ → α × σ} {outwards : α → α}

/-- The **levels** that an action is nested in, from the outermost, each with its depth and its
context. -/
def nest : Nat → Nat → ExecutionContext → List (Nat × ExecutionContext)
  | 0, depth, c => [(depth, c)]
  | levels + 1, depth, c => (depth, c) :: nest levels (depth + 1) c.elevated

/-- The context **so many levels** further inside. -/
def within (levels : Nat) (c : ExecutionContext) : ExecutionContext :=
  { c with inside := c.inside || decide (0 < levels) }

/-- A context is within itself. -/
@[simp] theorem within_zero (c : ExecutionContext) : c.within 0 = c := by
  simp [within]

/-- One level further inside, and then any number of them. -/
@[simp] theorem within_elevated (levels : Nat) (c : ExecutionContext) :
    c.elevated.within levels = c.within (levels + 1) := by
  simp [within, elevated]

/-- Every level has the context that its depth gives it. -/
theorem nest_eq_map (levels depth : Nat) (c : ExecutionContext) :
    nest levels depth c =
      (List.range (levels + 1)).map fun level => (depth + level, c.within level) := by
  induction levels generalizing depth c with
  | zero => simp [nest]
  | succ levels ih =>
      have hdepth (level : Nat) : depth + 1 + level = depth + (level + 1) := by omega
      rw [nest, ih, List.range_succ_eq_map (n := levels + 1), List.map_cons, List.map_map,
        within_zero]
      simp only [hdepth, within_elevated]
      rfl

/-- A **nested action** is the way in from the outermost level, the action in the innermost, and
the way out in the opposite order; what it returns goes through every level but the innermost. -/
theorem descend_eq {levels depth : Nat} {c : ExecutionContext} {s entered : σ}
    (hentered : (nest levels depth c).foldl (fun s level => before level.1 level.2 s) s = entered) :
    descend before after action outwards levels depth c s =
      (outwards^[levels] (action (c.within levels) entered).1,
        (nest levels depth c).reverse.foldl (fun s level => after level.1 level.2 s)
          (action (c.within levels) entered).2) := by
  induction levels generalizing depth c s with
  | zero =>
      subst hentered
      simp [descend, nest]
  | succ levels ih =>
      rw [descend, ih hentered, nest, within_elevated, List.reverse_cons, List.foldl_append,
        Function.iterate_succ_apply']
      rfl

end ExecutionContext

namespace Walk

variable {α β : Type} {w : Walk} {signals : Signals} {request : RequestId}

/-! ### The flag on the way -/

/-- The flags when a walk **has passed** so many levels on the way in. -/
def flagsAfter (w : Walk) (flag : Interrupt) (s : Signals) (levels : Nat) : Signals :=
  if w.raiseAt.any (· < levels) then s.raise flag else s

/-- One level more: the flag is raised there if this is the depth for it. -/
theorem flagsAfter_succ (flag : Interrupt) (s : Signals) (level : Nat) :
    w.flagsAfter flag s (level + 1) =
      if w.raiseAt = some level then (w.flagsAfter flag s level).raise flag
      else w.flagsAfter flag s level := by
  rw [flagsAfter, flagsAfter]
  cases w.raiseAt with
  | none => simp
  | some depth =>
      simp only [Option.any_some, Option.some.injEq, decide_eq_true_eq]
      rcases Nat.lt_trichotomy depth level with hlt | rfl | hgt
      · rw [if_pos (by omega), if_neg (by omega), if_pos hlt]
      · rw [if_pos (by omega), if_pos rfl, if_neg (by omega)]
      · rw [if_neg (by omega), if_neg (by omega), if_neg (by omega)]

/-- The **way in**: a look at every level, with the flags that the levels above have left. -/
theorem foldl_enter (look : Bool → Nat → ExecutionContext → Signals → β) (c : ExecutionContext)
    (s : Signals) (levels : Nat) :
    (List.range levels).foldl (fun s depth => w.enter look depth (c.within depth) s) (s, []) =
      (w.flagsAfter c.interrupt s levels,
        (List.range levels).map fun depth =>
          look true depth (c.within depth) (w.flagsAfter c.interrupt s depth)) := by
  induction levels with
  | zero => simp [flagsAfter]
  | succ levels ih =>
      rw [List.range_succ, List.foldl_append, ih, List.map_append, flagsAfter_succ]
      rfl

/-- The **way out**: a look at every level, and no flag is raised. -/
theorem foldl_leave (look : Bool → Nat → ExecutionContext → Signals → β) (c : ExecutionContext)
    (s : Signals) (depths : List Nat) (seen : List β) :
    depths.foldl (fun s depth => leave look depth (c.within depth) s) (s, seen) =
      (s, seen ++ depths.map fun depth => look false depth (c.within depth) s) := by
  induction depths generalizing seen with
  | nil => simp
  | cons depth rest ih =>
      rw [List.foldl_cons, leave, ih]
      simp

/-- A **walk** looks at every level on the way in and again on the way out, and returns what the
action in the innermost context did. -/
theorem observe_eq (look : ExecutionContext → Bool → Nat → ExecutionContext → Signals → β)
    (action : ExecutionContext → Signals → α) (outwards : α → α)
    {outermost : ExecutionContext} {s after : Signals}
    (hstart : w.start signals request = (outermost, s))
    (hafter : w.flagsAfter outermost.interrupt s (w.levels + 1) = after) :
    w.observe look action outwards signals request =
      (outwards^[w.levels] (action (outermost.within w.levels) after), after,
        ((List.range (w.levels + 1)).map fun depth =>
            look outermost true depth (outermost.within depth)
              (w.flagsAfter outermost.interrupt s depth)) ++
          (List.range (w.levels + 1)).reverse.map fun depth =>
            look outermost false depth (outermost.within depth) after) := by
  rw [observe, hstart]
  dsimp only
  rw [ExecutionContext.descend_eq rfl, ExecutionContext.nest_eq_map, List.foldl_map,
    ← List.map_reverse, List.foldl_map]
  simp only [Nat.zero_add]
  rw [foldl_enter (look outermost) outermost, foldl_leave, hafter]

/-! ### What is seen -/

/-- A **glance** on a walk: where it is, in which context, and with which flags. -/
structure Glance where
  inwards : Bool
  depth : Nat
  context : ExecutionContext
  signals : Signals

/-- Takes a glance. -/
def glance (_ : ExecutionContext) (inwards : Bool) (depth : Nat) (context : ExecutionContext)
    (signals : Signals) : Glance :=
  ⟨inwards, depth, context, signals⟩

/-- What the context says about the flag. -/
def Glance.interrupted (g : Glance) : Bool := g.context.isInterrupted g.signals

/-- Whether the flag has been raised **within so many levels**: before the walk began, or at one of
the first so many on the way in. -/
def raisedWithin (w : Walk) (levels : Nat) : Bool :=
  w.raisedBefore || w.raiseAt.any (· < levels)

/-- How many levels a walk **has passed** on the way in at a point of it: those above, and on the
way out all of them. -/
def passed (w : Walk) (inwards : Bool) (depth : Nat) : Nat :=
  if inwards then depth else w.levels + 1

/-- The **points** of a walk: every level on the way in, and then again on the way out. -/
def points (w : Walk) : List (Bool × Nat) :=
  (List.range (w.levels + 1)).map (true, ·) ++ (List.range (w.levels + 1)).reverse.map (false, ·)

/-- What a walk **shows**. It looks at every level on the way in and then again on the way out; at
every look the context is the one of the depth, outside the boundary at the outermost level and
inside it at every other; the context is interrupted just if the flag has been raised by then; and
what the innermost action returned is handed on by every level. -/
structure Shows (w : Walk) (flag : Interrupt) (request : RequestId)
    (action : ExecutionContext → Signals → α) (outwards : α → α) (result : α) (after : Signals)
    (seen : List Glance) : Prop where
  order : seen.map (fun g => (g.inwards, g.depth)) = w.points
  context : ∀ g ∈ seen, g.context = ⟨w.identity, decide (0 < g.depth), flag, request⟩
  interrupted : ∀ g ∈ seen, g.interrupted = w.raisedWithin (w.passed g.inwards g.depth)
  returned : result =
    outwards^[w.levels] (action ⟨w.identity, decide (0 < w.levels), flag, request⟩ after)

/-- The **start** of a walk: one more flag is handed out, and it is raised only if the walk begins
with that. -/
theorem start_eq (w : Walk) (request : RequestId) (hkept : signals.Kept) :
    ∃ s, w.start signals request = (⟨w.identity, false, signals.fresh.1, request⟩, s) ∧
      s.Kept ∧ s.handedOut = signals.handedOut + 1 ∧
      s.isRaised signals.fresh.1 = w.raisedBefore := by
  have hunraised : signals.fresh.2.isRaised signals.fresh.1 = false := hkept.isRaised_fresh
  cases hbefore : w.raisedBefore with
  | false => exact ⟨_, by rw [start, hbefore]; rfl, hkept.fresh, rfl, hunraised⟩
  | true =>
      refine ⟨_, by rw [start, hbefore]; rfl, hkept.fresh.raise (Nat.lt_succ_self _), ?_, ?_⟩
      · exact Signals.handedOut_raise
      · exact (Signals.isRaised_raise ..).mpr (.inr rfl)

/-- On the way, the flag of a walk is raised if it was at the start or at a level that has been
passed. -/
theorem isRaised_flagsAfter (flag : Interrupt) (s : Signals) (levels : Nat) :
    (w.flagsAfter flag s levels).isRaised flag =
      (s.isRaised flag || w.raiseAt.any (· < levels)) := by
  rw [flagsAfter]
  cases w.raiseAt.any (· < levels) with
  | false => simp
  | true =>
      rw [if_pos rfl, Bool.or_true]
      exact (Signals.isRaised_raise ..).mpr (.inr rfl)

/-- A walk hands out no further flag on the way, and keeps them well. -/
theorem kept_flagsAfter {flag : Interrupt} {s : Signals} (hkept : s.Kept)
    (hflag : flag.number < s.handedOut) (levels : Nat) :
    (w.flagsAfter flag s levels).Kept ∧
      (w.flagsAfter flag s levels).handedOut = s.handedOut := by
  rw [flagsAfter]
  split
  · exact ⟨hkept.raise hflag, Signals.handedOut_raise⟩
  · exact ⟨hkept, rfl⟩

/-- A flag that has been raised within some levels is still raised with more of them. -/
theorem raisedWithin_mono {levels more : Nat} (hle : levels ≤ more)
    (h : w.raisedWithin levels = true) : w.raisedWithin more = true := by
  rw [raisedWithin, Bool.or_eq_true] at h ⊢
  refine h.imp_right fun h => ?_
  rw [Option.any_eq_true] at h ⊢
  obtain ⟨level, hlevel, hlt⟩ := h
  exact ⟨level, hlevel, decide_eq_true (Nat.lt_of_lt_of_le (of_decide_eq_true hlt) hle)⟩

/-- On a walk, no point comes after another that has **passed more** levels. -/
theorem passed_pairwise (w : Walk) :
    w.points.Pairwise fun point later => w.passed point.1 point.2 ≤ w.passed later.1 later.2 := by
  refine List.pairwise_append.mpr ⟨?_, ?_, ?_⟩
  · exact List.pairwise_map.mpr (List.pairwise_lt_range.imp Nat.le_of_lt)
  · exact List.pairwise_map.mpr (List.pairwise_of_forall fun _ _ => Nat.le_refl _)
  · simp only [List.forall_mem_map, List.mem_range, List.mem_reverse]
    exact fun depth hdepth _ _ => Nat.le_of_lt hdepth

namespace Shows

variable {flag : Interrupt} {action : ExecutionContext → Signals → α} {outwards : α → α}
  {result : α} {after : Signals} {seen : List Glance}

/-- A context that is interrupted at one look is **still interrupted** at every later one. -/
theorem stays (h : w.Shows flag request action outwards result after seen) :
    seen.Pairwise fun g later => g.interrupted = true → later.interrupted = true := by
  have hpassed := List.pairwise_map.mp (h.order ▸ passed_pairwise w)
  refine hpassed.imp_of_mem fun hg hlater hle hraised => ?_
  rw [h.interrupted _ hg] at hraised
  rw [h.interrupted _ hlater]
  exact raisedWithin_mono hle hraised

/-- The **first look** is at the outermost context, before anything on the way. -/
theorem first (h : w.Shows flag request action outwards result after seen) :
    ∃ first rest, seen = first :: rest ∧
      first.context = ⟨w.identity, false, flag, request⟩ ∧
      first.interrupted = w.raisedBefore := by
  have horder := h.order
  rw [points, List.range_succ_eq_map, List.map_cons, List.cons_append] at horder
  obtain ⟨first, rest, rfl, hpoint, -⟩ := List.map_eq_cons_iff.mp horder
  obtain ⟨hinwards, hdepth⟩ := Prod.mk.inj hpoint
  refine ⟨first, rest, rfl, ?_, ?_⟩
  · rw [h.context _ List.mem_cons_self, hdepth]
    rfl
  · rw [h.interrupted _ List.mem_cons_self, passed, hinwards, hdepth, raisedWithin]
    simp

end Shows

/-- **Every walk** shows this. -/
theorem shows_of_observe {action : ExecutionContext → Signals → α} {outwards : α → α}
    {result : α} {after : Signals} {seen : List Glance} (hkept : signals.Kept)
    (hrun : w.observe glance action outwards signals request = (result, after, seen)) :
    w.Shows signals.fresh.1 request action outwards result after seen ∧ after.Kept ∧
      after.handedOut = signals.handedOut + 1 := by
  obtain ⟨s, hstart, hs, hcount, hbefore⟩ := start_eq w request hkept
  have hflag : signals.fresh.1.number < s.handedOut := by
    rw [hcount]
    exact Nat.lt_succ_self _
  obtain ⟨hafter, hsame⟩ := kept_flagsAfter (w := w) hs hflag (w.levels + 1)
  rw [observe_eq glance action outwards hstart rfl] at hrun
  obtain ⟨rfl, rfl, rfl⟩ : _ ∧ _ ∧ _ := by simpa only [Prod.mk.injEq] using hrun
  have hraised (levels : Nat) : (w.flagsAfter signals.fresh.1 s levels).isRaised signals.fresh.1 =
      w.raisedWithin levels := by
    rw [isRaised_flagsAfter, hbefore, raisedWithin]
  refine ⟨⟨?order, ?context, ?interrupted, rfl⟩, hafter, hsame.trans hcount⟩
  case order => simp [points, glance, Function.comp_def]
  case context =>
    refine List.forall_mem_append.mpr ⟨?_, ?_⟩
    · exact List.forall_mem_map.mpr fun _ _ => rfl
    · exact List.forall_mem_map.mpr fun _ _ => rfl
  case interrupted =>
    refine List.forall_mem_append.mpr ⟨?_, ?_⟩
    · exact List.forall_mem_map.mpr fun _ _ => hraised _
    · exact List.forall_mem_map.mpr fun _ _ => hraised _

/-- **Nested contexts.** Every walk shows the marker, the identity, the request and the flag as
`Shows` says, whatever the action in the innermost context is and however deep it is nested, and
what is interrupted stays so. A walk that begins later has a flag of its own: unless it is one that
begins with raising it, its outermost context is outside the boundary, not interrupted, and has its
own identity and request only. -/
theorem nesting_of_observe {action : ExecutionContext → Signals → α} {outwards : α → α}
    {result : α} {after : Signals} {seen : List Glance} (hkept : signals.Kept)
    (hrun : w.observe glance action outwards signals request = (result, after, seen)) :
    w.Shows signals.fresh.1 request action outwards result after seen ∧
    (seen.Pairwise fun g later => g.interrupted = true → later.interrupted = true) ∧
    after.Kept ∧ after.handedOut = signals.handedOut + 1 ∧
    ∀ {γ : Type} (next : Walk) (later : Signals) (ownRequest : RequestId)
      (ownAction : ExecutionContext → Signals → γ) (ownOutwards : γ → γ) (ownResult : γ)
      (ownAfter : Signals) (ownSeen : List Glance),
      later.Kept → after.handedOut ≤ later.handedOut →
      next.observe glance ownAction ownOutwards later ownRequest =
        (ownResult, ownAfter, ownSeen) →
      next.Shows later.fresh.1 ownRequest ownAction ownOutwards ownResult ownAfter ownSeen ∧
      later.fresh.1 ≠ signals.fresh.1 ∧
      (next.raisedBefore = false → ∃ first rest, ownSeen = first :: rest ∧
        first.context = ⟨next.identity, false, later.fresh.1, ownRequest⟩ ∧
        first.interrupted = false) := by
  obtain ⟨hshows, hafter, hcount⟩ := shows_of_observe hkept hrun
  refine ⟨hshows, hshows.stays, hafter, hcount, fun next later ownRequest ownAction ownOutwards
    ownResult ownAfter ownSeen hlater hcounted hnext => ?_⟩
  obtain ⟨hown, -, -⟩ := shows_of_observe hlater hnext
  refine ⟨hown, fun hsame => ?_, fun hquiet => ?_⟩
  · -- A flag's number is the count at the time, and the count has gone up since.
    have hnumber : later.handedOut = signals.handedOut := congrArg Interrupt.number hsame
    omega
  · simpa only [hquiet] using hown.first

/-- A walk of two levels that raises the flag at the first of them. -/
def raisingWalk : Walk := ⟨some { principal := ⟨"alice"⟩ }, 2, some 1, false⟩

/-- The walk shows what it should, and the result of the innermost action comes back as it was. -/
theorem shown_raisingWalk : ∃ after seen,
    raisingWalk.observe glance (fun c s => (c.user, c.isInterrupted s)) id {} ⟨0⟩ =
        ((some "alice", true), after, seen) ∧
      raisingWalk.Shows ⟨0⟩ ⟨0⟩ (fun c s => (c.user, c.isInterrupted s)) id (some "alice", true)
        after seen := by
  refine ⟨_, _, rfl, ?_⟩
  exact (nesting_of_observe Signals.kept_empty rfl).1

end Walk

end CallGate

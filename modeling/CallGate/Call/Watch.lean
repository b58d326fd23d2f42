import CallGate.Call.Flight
import CallGate.Call.Instant
import CallGate.Interleaving

/-!
# Watching a call

A call in flight together with everybody who watches it, each through a future of their own.
Some only look, which takes one section: at the status, or with a poll. Others *wait*: for the
outcome however long it takes, or for the status within a limit. Whoever waits takes the slot
lock and looks; if there is no outcome yet it falls asleep, which gives the lock back. Settling
the call wakes all who sleep, and they look again; whose deadline passes while it sleeps looks
for the last time.

Watching changes nothing about the call, except that a poll leaves its waker. What is seen is
told as `Sighting`s.

* `Watch.step?` — an action of the flight, the clock, or a move of somebody who waits.
* `Watch.run?` — an interleaving of them.
* `Watch.waitAlone` — a wait during which nothing else moves.

The deadline of a wait is the instant a span later than its beginning. Where there is no such
instant, the wait is broken off before it has looked.
-/

namespace CallGate

/-! ### Sightings -/

/-- What somebody **saw** of a call. -/
inductive Sighting (α : Type) where
  /-- A poll: the outcome, if it was ready. -/
  | polled (ready : Option (CallOutcome α))
  /-- A look at the status, of an observer or of a cancel that is about to answer. -/
  | looked (status : Status)
  /-- The end of a wait for the outcome. -/
  | got (outcome : CallOutcome α)
  /-- The end of a wait with a deadline. -/
  | waited (deadline : Instant) (status : Status)
deriving DecidableEq, Repr

/-- What an action on a flight **sees** of its call. -/
def Flight.sightings {ω α : Type} [BEq ω] (f : Flight ω α) : Action ω → List (Sighting α)
  | .poll waker => [.polled (f.call.poll waker).value]
  | .look | .read _ => [.looked f.call.look.value]
  | _ => []

/-! ### Those who wait -/

/-- Where somebody who waits **is**. -/
inductive WatcherPhase where
  /-- About to take the slot lock for the first time. -/
  | arriving
  /-- Asleep until woken. -/
  | asleep (woken : Bool)
  /-- Through. -/
  | through
deriving DecidableEq, Repr

/-- Somebody who **waits** for a call: for its outcome, or for its status until a deadline. -/
structure Watcher where
  deadline : Option Instant
  phase : WatcherPhase := .arriving
deriving DecidableEq, Repr

namespace Watcher

variable {ω α : Type}

/-- The watcher after the call was settled. -/
def woken (x : Watcher) : Watcher :=
  match x.phase with
  | .asleep _ => { x with phase := .asleep true }
  | .arriving | .through => x

/-- Whether the watcher may **look**: at the beginning, and whenever it was woken. -/
def mayLook (x : Watcher) : Bool :=
  match x.phase with
  | .arriving | .asleep true => true
  | .asleep false | .through => false

/-- What the watcher sees in an outcome. -/
def sighting (x : Watcher) (outcome : CallOutcome α) : Sighting α :=
  match x.deadline with
  | none => .got outcome
  | some deadline => .waited deadline outcome.status

/-- A **look** under the slot lock: with an outcome the wait is over, without one the watcher
falls asleep. -/
def look (x : Watcher) (c : Call ω α) : Watcher × List (Sighting α) :=
  match c.outcome? with
  | some outcome => ({ x with phase := .through }, [x.sighting outcome])
  | none => ({ x with phase := .asleep false }, [])

/-- The deadline of a watcher that has **slept through** it. -/
def missed? (x : Watcher) (now : Instant) : Option Instant :=
  match x.phase with
  | .asleep false => x.deadline.filter fun deadline => deadline.reached now
  | .asleep true | .arriving | .through => none

end Watcher

/-! ### Watches -/

/-- A call in flight with all who **watch** it, and the time. -/
structure Watch (ω α : Type) where
  now : Instant
  flight : Flight ω α := {}
  watchers : List Watcher := []
deriving DecidableEq, Repr

/-- A **move**. Watchers are known by their position. -/
inductive Watch.Move (ω : Type) where
  | act (action : Action ω)
  /-- Time goes on. -/
  | tick (now : Instant)
  /-- Somebody begins to wait for the outcome. -/
  | get
  /-- Somebody begins to wait within a limit. -/
  | wait (limit : Span)
  | look (position : Nat)
  /-- The deadline of a watcher has passed while it slept. -/
  | expire (position : Nat)

/-- Whether an effect **wakes** those who wait for the outcome. -/
def Effect.wakesWatchers {ω : Type} : Effect ω → Bool
  | notifySettled => true
  | _ => false

namespace Watch

variable {ω α : Type}

/-- A flight moves; settling its call wakes all who sleep. -/
def act? [BEq ω] (convert : Response → α) (w : Watch ω α) (action : Action ω) :
    Option (Watch ω α × List (Sighting α)) :=
  (w.flight.step? convert action).map fun r =>
    let watchers := if r.2.any Effect.wakesWatchers then w.watchers.map .woken else w.watchers
    ({ w with flight := r.1, watchers }, w.flight.sightings action)

/-- Somebody more waits. -/
def joined (w : Watch ω α) (deadline : Option Instant) : Watch ω α :=
  { w with watchers := w.watchers ++ [{ deadline }] }

/-- A watcher looks. -/
def look? (w : Watch ω α) (position : Nat) : Option (Watch ω α × List (Sighting α)) :=
  match w.watchers[position]? with
  | none => none
  | some x =>
    if x.mayLook then
      let r := x.look w.flight.call
      some ({ w with watchers := w.watchers.set position r.1 }, r.2)
    else none

/-- A watcher that has slept through its deadline looks for the last time, and its wait is over
whatever it sees. -/
def expire? (w : Watch ω α) (position : Nat) : Option (Watch ω α × List (Sighting α)) :=
  match w.watchers[position]? with
  | none => none
  | some x =>
    (x.missed? w.now).map fun deadline =>
      ({ w with watchers := w.watchers.set position { x with phase := .through } },
        [.waited deadline w.flight.call.look.value])

/-- One **step**. -/
def step? [BEq ω] (convert : Response → α) (w : Watch ω α) :
    Move ω → Option (Watch ω α × List (Sighting α))
  | .act action => w.act? convert action
  | .tick now => if w.now.reached now then some ({ w with now }, []) else none
  | .get => some (w.joined none, [])
  | .wait limit =>
    match w.now.add? limit with
    | some deadline => some (w.joined (some deadline), [])
    | none => some (w, [])
  | .look position => w.look? position
  | .expire position => w.expire? position

/-- An **interleaving** of moves. -/
def run? [BEq ω] (convert : Response → α) (w : Watch ω α) (moves : List (Move ω)) :
    Option (Watch ω α × List (Sighting α)) :=
  Interleaving.run? (step? convert) w moves

/-- The end of the first wait among some sightings. -/
def waited? (seen : List (Sighting α)) : Option Status :=
  seen.findSome? fun
    | .waited _ status => some status
    | _ => none

/-- A wait **alone** with a flight: nothing else moves before the deadline. There is no status
to tell where the wait is broken off. -/
def waitAlone [BEq ω] (convert : Response → α) (w : Watch ω α) (limit : Span) : Option Status :=
  (w.now.add? limit).bind fun deadline =>
    let position := w.watchers.length
    (w.run? convert [.wait limit, .look position]).bind fun looked =>
      -- A wait that is over at its first look has no deadline to miss.
      (waited? looked.2).orElse fun _ =>
        (looked.1.run? convert [.tick deadline, .expire position]).bind fun r => waited? r.2

end Watch

end CallGate

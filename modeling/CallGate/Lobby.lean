import CallGate.Interleaving
import CallGate.Login

/-!
# Lobbies

Where connections are logged in and out. A lobby keeps holders of identities, and everybody
reaches a holder through a handle. A handle can be shared, and then there is one more handle for
the same holder: what is established through one of them is held for all of them. A provider may
be attached to a handle, and then establishes there whom it has authenticated.

* `Lobby.step?` — one move, or nothing where there is no such handle.
* `Lobby.run?` — moves one after the other, with all visits in order.
* `Lobby.current` — who is held where a handle leads.
-/

namespace CallGate

/-- A **lobby**. -/
structure Lobby where
  holders : List Holder := []
  /-- The place of the holder that each handle leads to. -/
  handles : List Nat := []
deriving DecidableEq, Repr

/-- A **move** in a lobby. Handles are known by their position. -/
inductive Lobby.Move where
  /-- A holder is set up, with a first handle. -/
  | create
  /-- Somebody gets a handle of their own for the same holder. -/
  | share (handle : Nat)
  | establish (handle : Nat) (identity : Identity)
  | clear (handle : Nat)
  | login (provider : Provider) (attached : Option Nat) (request : LoginRequest)

/-- A **visit**: what occurred at the holder in a place, or at none. -/
inductive Lobby.Visit where
  | established (place : Nat) (identity : Identity)
  | cleared (place : Nat) (identity : Option Identity)
  | loggedIn (place : Option Nat) (result : Except Fault Identity) (trace : LoginTrace)
deriving Repr

namespace Lobby

/-- Who is **held** where a handle leads; nobody where it leads nowhere. -/
def current (l : Lobby) (handle : Nat) : Option Identity :=
  ((l.handles[handle]?).bind fun place => l.holders[place]?).bind Holder.current

/-- A visit **through** a handle: the holder is replaced. -/
def through? (l : Lobby) (handle : Nat) (visit : Nat → Holder → Holder × Visit) :
    Option (Lobby × List Visit) :=
  match l.handles[handle]? with
  | none => none
  | some place =>
    (l.holders[place]?).map fun holder =>
      let (after, told) := visit place holder
      ({ l with holders := l.holders.set place after }, [told])

/-- A login that establishes the identity in a holder. -/
def loginAt (provider : Provider) (request : LoginRequest) (place : Nat) (holder : Holder) :
    Holder × Visit :=
  let ((result, trace), after) := provider.loginInto request holder
  (after, .loggedIn (some place) result trace)

/-- One **step**. -/
def step? (l : Lobby) : Move → Option (Lobby × List Visit)
  | .create => some (⟨l.holders ++ [({} : Holder)], l.handles ++ [l.holders.length]⟩, [])
  | .share handle =>
    (l.handles[handle]?).map fun place => ({ l with handles := l.handles ++ [place] }, [])
  | .establish handle identity =>
    l.through? handle fun place holder => (holder.establish identity, .established place identity)
  | .clear handle =>
    l.through? handle fun place holder =>
      let (identity, after) := holder.clear
      (after, .cleared place identity)
  | .login provider attached request =>
    match attached with
    | some handle => l.through? handle (loginAt provider request)
    | none =>
      let (result, trace) := provider.runLogin request
      some (l, [.loggedIn none result trace])

/-- Moves **one after the other**. -/
def run? (l : Lobby) (moves : List Move) : Option (Lobby × List Visit) :=
  Interleaving.run? step? l moves

end Lobby

end CallGate

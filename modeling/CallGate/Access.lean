import CallGate.Client
import CallGate.Config

/-!
# Access to clients

Clients are made by a factory, and making one is a matter of permission: the factory asks
the policy that was installed last, once for each client, unless the configuration applied
last says not to. A policy may have a state of its own and answer differently each time.

* `Policy.permitAll`, `Policy.denyAll`.
* `Factory.create` — one client, or the policy's fault; `Factory.createAll` — several.
* `Factory.ofSettings` — the factory that is set up in so many steps.
-/

namespace CallGate

/-- The **permissions** that are asked for. -/
inductive Permission where
  /-- Needed for any client of the controller. -/
  | controllerAccess
deriving DecidableEq, Repr

/-- The name of a permission. -/
def Permission.name : Permission → String
  | .controllerAccess => "modelgate.controller.access"

/-- An access **policy**. -/
structure Policy (σ : Type) where
  check : Permission → σ → Except Fault Unit × σ

/-- Grants everything. -/
def Policy.permitAll (σ : Type) : Policy σ := ⟨fun _ s => (.ok (), s)⟩

/-- Grants nothing. -/
def Policy.denyAll (σ : Type) : Policy σ :=
  ⟨fun p s => (.error (.permissionDenied p.name), s)⟩

/-- A **factory** of clients. -/
structure Factory (σ : Type) where
  policy : Policy σ := .permitAll σ
  enforce : Bool := true

namespace Factory

variable {σ : Type}

/-- The factory with another policy. -/
def withPolicy (f : Factory σ) (policy : Policy σ) : Factory σ := { f with policy }

/-- The factory after a configuration has been applied. -/
def withConfig (f : Factory σ) (config : Config) : Factory σ :=
  { f with enforce := config.enforceAccess }

/-- The event of a refusal. -/
def deniedEvent (fault : Fault) : Log.Event :=
  ⟨.warn, Log.security, "client creation denied", [("error", .shown fault.message)]⟩

/-- Makes an **ordinary client**, or fails with the policy's own fault. -/
def createLocal (f : Factory σ) (hasExecutor : Bool) (s : σ) :
    (Except Fault Client × List Log.Event) × σ :=
  let client : Client := ⟨false, hasExecutor⟩
  if f.enforce then
    match f.policy.check .controllerAccess s with
    | (.ok (), s) => ((.ok client, []), s)
    | (.error fault, s) => ((.error fault, [deniedEvent fault]), s)
  else ((.ok client, []), s)

/-- Makes a **client**: an ordinary one, or a super-user client around an ordinary one. -/
def create (f : Factory σ) (superUser hasExecutor : Bool) (s : σ) :
    (Except Fault Client × List Log.Event) × σ :=
  let ((made, events), s) := f.createLocal hasExecutor s
  ((if superUser then made.map Client.elevated else made, events), s)

/-- Makes **clients** one after the other. -/
def createAll (f : Factory σ) : List Client → σ → List (Except Fault Client × List Log.Event) × σ
  | [], s => ([], s)
  | wanted :: rest, s =>
    let (made, s) := f.create wanted.superUser wanted.hasExecutor s
    let (others, s) := f.createAll rest s
    (made :: others, s)

/-! ### Setting a factory up -/

/-- A **setting** of a factory. -/
inductive Setting (σ : Type) where
  | policy (policy : Policy σ)
  | config (config : Config)

/-- The factory with a setting. -/
def set (f : Factory σ) : Setting σ → Factory σ
  | .policy policy => f.withPolicy policy
  | .config config => f.withConfig config

/-- The factory with **settings** made one after the other. -/
def ofSettings (settings : List (Setting σ)) : Factory σ := settings.foldl set {}

end Factory

end CallGate

import CallGate.Json.Record

/-!
# Identities

A caller that has been authenticated: a principal, the roles it holds and where it came
from. A `Holder` keeps the identity that was established last; a `Supplier` is whatever a
client asks for the identity of the moment, and may keep count of the asking.

* `Identity.hasRole`, `Identity.withRoles`.
* `Identity.toJson`, `Identity.ofTree?` and the like — the written forms.
* `Holder.establish`, `Holder.clear`.
* `Supplier` — an identity source with a state of its own.
-/

namespace CallGate

/-- A **principal**, known by its name. -/
structure Principal where
  name : String
deriving DecidableEq, Repr

/-- Where an identity comes from, as far as that is known. -/
structure Attributes where
  realm : Option String := none
  mechanism : Option String := none
  ip : Option String := none
deriving DecidableEq, Repr

/-- An **identity**. -/
structure Identity where
  principal : Principal
  roles : List String := []
  attributes : Attributes := {}
deriving DecidableEq, Repr

namespace Identity

/-- The name of the principal. -/
def name (i : Identity) : String := i.principal.name

/-- The identity with other roles in place of its own. -/
def withRoles (i : Identity) (roles : List String) : Identity := { i with roles }

/-- Whether a role is held. -/
def hasRole (i : Identity) (role : String) : Bool := i.roles.contains role

end Identity

/-! ### The written forms -/

/-- The object of a principal. -/
def Principal.toJson (p : Principal) : Json := .object [("name", .string p.name)]

/-- Reads a principal. -/
def Principal.ofTree? (t : Tree) : Option Principal :=
  match t.fields? ["name"] with
  | some [name] => (Tree.required Tree.text? name).map Principal.mk
  | _ => none

/-- The object of attributes. -/
def Attributes.toJson (a : Attributes) : Json :=
  .object
    [("realm", .ofText? a.realm), ("mechanism", .ofText? a.mechanism), ("ip", .ofText? a.ip)]

/-- Reads attributes; one that is not given is unknown. -/
def Attributes.ofTree? (t : Tree) : Option Attributes :=
  match t.fields? ["realm", "mechanism", "ip"] with
  | some [realm, mechanism, ip] => do
    return {
      realm := ← Tree.defaulted none Tree.optionalText? realm
      mechanism := ← Tree.defaulted none Tree.optionalText? mechanism
      ip := ← Tree.defaulted none Tree.optionalText? ip }
  | _ => none

/-- The object of an identity. -/
def Identity.toJson (i : Identity) : Json :=
  .object
    [("principal", i.principal.toJson),
     ("roles", .array (i.roles.map .string)),
     ("attrs", i.attributes.toJson)]

/-- Reads an identity; roles and attributes may be left out. -/
def Identity.ofTree? (t : Tree) : Option Identity :=
  match t.fields? ["principal", "roles", "attrs"] with
  | some [principal, roles, attributes] => do
    return {
      principal := ← Tree.required Principal.ofTree? principal
      roles := ← Tree.defaulted [] Tree.texts? roles
      attributes := ← Tree.defaulted {} Attributes.ofTree? attributes }
  | _ => none

/-! ### Holding an identity -/

/-- A **holder** of the identity that was established last. -/
structure Holder where
  current : Option Identity := none
deriving DecidableEq, Repr

/-- Puts an identity in place of whatever was held. -/
def Holder.establish (_ : Holder) (identity : Identity) : Holder := ⟨some identity⟩

/-- Takes out what was held. -/
def Holder.clear (h : Holder) : Option Identity × Holder := (h.current, {})

/-- A **supplier** answers with the identity of the moment. Its state may change by the
asking. -/
structure Supplier (σ : Type) where
  read : σ → Option Identity × σ

/-- The supplier for callers that have not authenticated. -/
def Supplier.anonymous (σ : Type) : Supplier σ := ⟨fun s => (none, s)⟩

end CallGate

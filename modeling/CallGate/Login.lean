import CallGate.Callback
import CallGate.Realm

/-!
# Login

The authentication of a connection, before any operation is accepted: a sequence of gates
that fails closed. The realm has to support the kind of evidence, to resolve it to an
identity that exists, to verify it, and to name a principal; and where the caller asks to
act as somebody, the callback handler has to authorize that. The first gate that does not
open decides: with the fault of the realm or handler itself, or with an authentication
fault for an answer of no.

A login is a `Gate` computation: it returns an identity or a fault, and on the way it writes
down whom it consulted and what was logged, in order.

* `Provider.login` — the gates.
* `Provider.loginInto` — a login that puts the identity into a holder when it succeeds.
* `Provider.clientCertificate` — the provider of client-certificate connections.
-/

namespace CallGate

/-- What a caller presents to log in. -/
structure LoginRequest where
  evidence : Evidence
  /-- As whom the caller wants to act; none means as itself. -/
  authorizationId : Option String := none
  ip : Option String := none
deriving DecidableEq, Repr

/-- The **diagnostic** text of a request: its evidence in diagnostic form, the rest as it is. -/
def LoginRequest.diagnostic (r : LoginRequest) : String :=
  "LoginRequest \x7b evidence: " ++ r.evidence.diagnostic ++
    ", authorization_id: " ++ Text.quotedOption r.authorizationId ++
    ", ip: " ++ Text.quotedOption r.ip ++ " \x7d"

/-- A **provider** of authentication: a realm, a handler, and the names it is known by. -/
structure Provider where
  realmName : String
  mechanism : Mechanism
  realm : Realm
  handler : Handler

/-! ### Gates -/

/-- A **consultation** of the realm, the realm identity or the handler. -/
inductive Consultation where
  | evidenceSupport (kind : EvidenceKind)
  | identify (locator : Locator)
  | isPresent
  | verify (evidence : Evidence)
  | principal
  | handle (callbacks : List Callback)
deriving DecidableEq, Repr

/-- What a login has done so far. -/
structure LoginTrace where
  consultations : List Consultation := []
  events : List Log.Event := []
deriving DecidableEq, Repr

/-- A **gate** computation: a result or a fault, with a trace that grows. -/
abbrev Gate (α : Type) := ExceptT Fault (StateM LoginTrace) α

namespace Gate

/-- Writes down a consultation and goes on with its answer. -/
def consult {α : Type} (c : Consultation) (answer : Except Fault α) : Gate α := do
  modify fun t => { t with consultations := t.consultations ++ [c] }
  MonadExcept.ofExcept answer

/-- Writes down events. -/
def log (events : List Log.Event) : Gate Unit :=
  modify fun t => { t with events := t.events ++ events }

/-- Goes on only if a condition holds; else the login failed for the reason given. -/
def insist (condition : Bool) (reason : String) : Gate Unit :=
  if condition then pure () else throw (.authenticationFailed reason)

end Gate

/-! ### The login -/

namespace Provider

/-- The event of a success. -/
def loginSucceeded (principal : Principal) (realmName : String) : Log.Event :=
  ⟨.debug, Log.security, "login succeeded",
    [("user", .shown principal.name), ("realm", .shown realmName)]⟩

/-- Asks the handler whether the principal may act as somebody. Whatever the handler does to
the batch, only an authorize callback that it left in the first place can say yes. -/
def authorize (p : Provider) (principal : Principal) (authorizationId : String) : Gate Unit := do
  let batch := [Callback.authorize ⟨principal.name, authorizationId, false⟩]
  let answer := p.handler.handle batch
  Gate.log answer.events
  Gate.consult (.handle batch) answer.verdict
  Gate.insist (answer.callbacks.head?.any Callback.isAuthorized)
    ("'" ++ principal.name ++ "' may not act as '" ++ authorizationId ++ "'")

/-- The identity of a successful login. It has no roles yet. -/
def identity (p : Provider) (principal : Principal) (ip : Option String) : Identity where
  principal := principal
  attributes :=
    { realm := some p.realmName, mechanism := some p.mechanism.wireName, ip := ip }

/-- The **login**, gate by gate. -/
def login (p : Provider) (request : LoginRequest) : Gate Identity := do
  let kind := request.evidence.kind
  let support ← Gate.consult (.evidenceSupport kind) (p.realm.evidenceSupport kind none)
  Gate.insist support.mayBeSupported
    ("evidence " ++ kind.label ++ " not supported by realm '" ++ p.realmName ++ "'")
  let locator := Locator.ofEvidence request.evidence
  let found ← Gate.consult (.identify locator) (p.realm.identify locator)
  Gate.insist (← Gate.consult .isPresent found.isPresent) "identity does not exist"
  Gate.insist (← Gate.consult (.verify request.evidence) (found.verify request.evidence))
    "evidence verification failed"
  match ← Gate.consult .principal (.ok found.principal) with
  | none => throw (.authenticationFailed "realm identity has no principal")
  | some principal =>
    match request.authorizationId with
    | some authorizationId => p.authorize principal authorizationId
    | none => pure ()
    Gate.log [loginSucceeded principal p.realmName]
    return p.identity principal request.ip

/-- A login on its own: the result and what happened on the way. -/
def runLogin (p : Provider) (request : LoginRequest) : Except Fault Identity × LoginTrace :=
  (p.login request).run.run {}

/-- A login that **establishes** the identity when it succeeds, and changes nothing when it
does not. -/
def loginInto (p : Provider) (request : LoginRequest) (holder : Holder) :
    (Except Fault Identity × LoginTrace) × Holder :=
  let answer := p.runLogin request
  (answer,
    match answer.1 with
    | .ok identity => holder.establish identity
    | .error _ => holder)

/-- The provider of **client-certificate** connections under a realm name. -/
def clientCertificate (realmName : String) : Provider where
  realmName := realmName
  mechanism := ClientCertificate.preferredMechanism
  realm := .clientCertificate
  handler := .clientCertificate

end Provider

end CallGate

import CallGate.Fault
import CallGate.Log.Event

/-!
# Authorization callbacks

Some transports still negotiate pairs of an authentication id, who the caller proved to
be, and an authorization id, as whom it wants to act. They ask through batches of
callbacks. A handler answers a batch as a whole: with a fault, or with every callback
updated in place.

* `Handler` — any way of answering a batch.
* `Handler.clientCertificate` — refuses a batch with anything but authorize callbacks before
  it touches any of them; else authorizes exactly the callers that act as themselves.
-/

namespace CallGate

/-! ### Mechanisms -/

/-- The **authentication mechanisms**. -/
inductive Mechanism where
  | clientCertificate
  | digest
  | plain
  | sameHost
deriving DecidableEq, Repr

namespace Mechanism

/-- The name of a mechanism on the wire. -/
def wireName : Mechanism → String
  | clientCertificate => "CLIENT_CERT"
  | digest => "DIGEST"
  | plain => "PLAIN"
  | sameHost => "LOCAL"

/-- All mechanisms. -/
def all : List Mechanism := [clientCertificate, digest, plain, sameHost]

/-- Reads a mechanism. -/
def ofTree? (t : Tree) : Option Mechanism := t.choice? wireName all

end Mechanism

/-! ### Callbacks -/

/-- An **authorization**: may the one act as the other? -/
structure Authorization where
  authenticationId : String
  authorizationId : String
  authorized : Bool := false
deriving DecidableEq, Repr

/-- A **callback**: a question of the transport, with room for the answer. -/
inductive Callback where
  | authorize (authorization : Authorization)
  | name (prompt : String) (reply : Option String)
  | password (prompt : String) (reply : Option String)
  | realm (prompt : String) (reply : Option String)
deriving DecidableEq, Repr

namespace Callback

/-- The name of a callback's kind. -/
def kind : Callback → String
  | authorize _ => "authorize"
  | name _ _ => "name"
  | password _ _ => "password"
  | realm _ _ => "realm"

/-- Whether the question is about acting as somebody. -/
def isAuthorize : Callback → Bool
  | authorize _ => true
  | _ => false

/-- Whether the question is about acting as somebody and the answer is yes. -/
def isAuthorized : Callback → Bool
  | authorize a => a.authorized
  | _ => false

end Callback

/-! ### Handlers -/

/-- The **answer** to a batch: a verdict on the whole, the callbacks as they are left, and
what was logged. -/
structure BatchAnswer where
  verdict : Except Fault Unit
  callbacks : List Callback
  events : List Log.Event

/-- A **handler** of batches. -/
structure Handler where
  handle : List Callback → BatchAnswer

namespace ClientCertificate

/-- Whether somebody acts as itself; upper and lower case differ. -/
def actsAsItself (a : Authorization) : Bool := a.authenticationId == a.authorizationId

/-- A callback after the decision. -/
def decided : Callback → Callback
  | .authorize a => .authorize { a with authorized := actsAsItself a }
  | c => c

/-- The event of a refusal. -/
def refusal (a : Authorization) : Log.Event :=
  ⟨.trace, Log.security, "Checking 'AuthorizeCallback', authorized=false",
    [("authentication_id", .shown a.authenticationId),
     ("authorization_id", .shown a.authorizationId)]⟩

/-- The event of a callback, if it is refused. -/
def refusal? : Callback → Option Log.Event
  | .authorize a => if actsAsItself a then none else some (refusal a)
  | _ => none

/-- Refuses the whole batch for its first callback of another kind, or decides each. -/
def handle (callbacks : List Callback) : BatchAnswer :=
  match callbacks.find? fun c => !c.isAuthorize with
  | some other => ⟨.error (.unsupportedCallback other.kind), callbacks, []⟩
  | none => ⟨.ok (), callbacks.map decided, callbacks.filterMap refusal?⟩

/-- The mechanism this handling belongs to. -/
def preferredMechanism : Mechanism := .clientCertificate

/-- The other mechanisms it knows: none. -/
def supplementaryMechanisms : List Mechanism := []

/-- The options it can be configured with: none. -/
def configurationOptions : List (String × String) := []

/-- A certificate is presented when the connection is made, never on a challenge. -/
def isReadyForHttpChallenge : Bool := false

end ClientCertificate

/-- The **client-certificate handler**. -/
def Handler.clientCertificate : Handler := ⟨ClientCertificate.handle⟩

end CallGate

import CallGate.Evidence

/-!
# Realms

A realm resolves what a caller presents into a realm identity, and says beforehand what it
can do with each kind of credential and evidence. Realms and realm identities are records
of functions, so that a theorem can speak about any of them.

* `RealmIdentity.absent` — the answer when a locator resolves to nobody.
* `Realm.clientCertificate` — the realm of callers whose certificate chain the transport
  has checked: it believes every chain it is shown, knows the leaf's subject, and has
  nothing else to offer.
-/

namespace CallGate

/-- What a caller gives a realm to look for. -/
structure Locator where
  name : Option String := none
  evidence : Option Evidence := none
deriving DecidableEq, Repr

/-- A locator by evidence alone. -/
def Locator.ofEvidence (e : Evidence) : Locator := { evidence := some e }

/-- A **realm identity**: somebody, or nobody, found in a realm. -/
structure RealmIdentity where
  principal : Option Principal
  isPresent : Except Fault Bool
  verify : Evidence → Except Fault Bool
  credential : CredentialKind → Except Fault (Option Credential)
  credentialSupport : CredentialKind → Option String → Except Fault SupportLevel
  evidenceSupport : EvidenceKind → Option String → Except Fault SupportLevel

/-- A **realm**. The second argument of the two questions about support is an algorithm. -/
structure Realm where
  credentialSupport : CredentialKind → Option String → Except Fault SupportLevel
  evidenceSupport : EvidenceKind → Option String → Except Fault SupportLevel
  identify : Locator → Except Fault RealmIdentity

/-- **Nobody**: supports nothing, verifies nothing, is not there. -/
def RealmIdentity.absent : RealmIdentity where
  principal := none
  isPresent := .ok false
  verify _ := .ok false
  credential _ := .ok none
  credentialSupport _ _ := .ok .unsupported
  evidenceSupport _ _ := .ok .unsupported

/-! ### Client certificates -/

namespace ClientCertificate

/-- No credential is ever handed out. -/
def credentialSupport (_ : CredentialKind) (_ : Option String) : Except Fault SupportLevel :=
  .ok .unsupported

/-- Chains are supported, passwords and tokens are not. -/
def evidenceSupport (kind : EvidenceKind) (_ : Option String) : Except Fault SupportLevel :=
  match kind with
  | .peerChain => .ok .supported
  | .passwordGuess | .bearerToken => .ok .unsupported

/-- Only a chain is believed, and every chain is. -/
def verify : Evidence → Except Fault Bool
  | .peerChain _ => .ok true
  | .passwordGuess _ | .bearerToken _ => .ok false

/-- The identity of a chain's leaf. -/
def identity (chain : Chain) : RealmIdentity where
  principal := some chain.principal
  isPresent := .ok true
  verify := verify
  credential _ := .ok none
  credentialSupport := credentialSupport
  evidenceSupport := evidenceSupport

/-- A chain resolves to its leaf; everything else to nobody. -/
def identify (locator : Locator) : Except Fault RealmIdentity :=
  match locator.evidence with
  | some (.peerChain chain) => .ok (identity chain)
  | some (.passwordGuess _) | some (.bearerToken _) | none => .ok .absent

end ClientCertificate

/-- The **client-certificate realm**. -/
def Realm.clientCertificate : Realm where
  credentialSupport := ClientCertificate.credentialSupport
  evidenceSupport := ClientCertificate.evidenceSupport
  identify := ClientCertificate.identify

end CallGate

import CallGate.Fault
import CallGate.Identity
import CallGate.Text.Quoted

/-!
# Evidence and credentials

What a caller presents to prove who it is, and what a realm may store about it. The sets
of kinds are closed. A certificate chain as evidence has at least its leaf, which is part
of the type: its subject is the principal the chain speaks for. The diagnostic texts never
show a secret.

* `Chain.ofList?` — a chain from a list, refused when empty.
* `Evidence.kind`, `Evidence.diagnostic`; `Credential.kind`, `Credential.diagnostic`.
-/

namespace CallGate

/-! ### Support -/

/-- How far a realm can deal with a kind of credential or evidence. -/
inductive SupportLevel where
  | unsupported
  | possiblySupported
  | supported
deriving DecidableEq, Repr

namespace SupportLevel

/-- The name of a level. -/
def name : SupportLevel → String
  | unsupported => "unsupported"
  | possiblySupported => "possibly_supported"
  | supported => "supported"

/-- All levels. -/
def all : List SupportLevel := [unsupported, possiblySupported, supported]

/-- Reads a level. -/
def ofTree? (t : Tree) : Option SupportLevel := t.choice? name all

/-- Worth trying. -/
def mayBeSupported (s : SupportLevel) : Bool := s != unsupported

/-- Certain to work. -/
def isDefinitelySupported (s : SupportLevel) : Bool := s == supported

end SupportLevel

/-! ### Kinds -/

/-- The **kinds of credentials**. -/
inductive CredentialKind where
  | password
  | certificateChain
  | bearerToken
deriving DecidableEq, Repr

namespace CredentialKind

/-- The name of a kind. -/
def name : CredentialKind → String
  | password => "password"
  | certificateChain => "x509_certificate_chain"
  | bearerToken => "bearer_token"

/-- The name of a kind in diagnostics. -/
def label : CredentialKind → String
  | password => "Password"
  | certificateChain => "X509CertificateChain"
  | bearerToken => "BearerToken"

/-- All kinds. -/
def all : List CredentialKind := [password, certificateChain, bearerToken]

/-- Reads a kind. -/
def ofTree? (t : Tree) : Option CredentialKind := t.choice? name all

end CredentialKind

/-- The **kinds of evidence**. -/
inductive EvidenceKind where
  | peerChain
  | passwordGuess
  | bearerToken
deriving DecidableEq, Repr

namespace EvidenceKind

/-- The name of a kind. -/
def name : EvidenceKind → String
  | peerChain => "x509_peer_certificate_chain"
  | passwordGuess => "password_guess"
  | bearerToken => "bearer_token"

/-- The name of a kind in diagnostics. -/
def label : EvidenceKind → String
  | peerChain => "X509PeerCertificateChain"
  | passwordGuess => "PasswordGuess"
  | bearerToken => "BearerToken"

/-- All kinds. -/
def all : List EvidenceKind := [peerChain, passwordGuess, bearerToken]

/-- Reads a kind. -/
def ofTree? (t : Tree) : Option EvidenceKind := t.choice? name all

end EvidenceKind

/-! ### Certificates -/

/-- A **certificate**, as far as this library looks into one. -/
structure Certificate where
  subject : String
  issuer : String
deriving DecidableEq, Repr

namespace Certificate

/-- The object of a certificate. -/
def toJson (c : Certificate) : Json :=
  .object [("subject", .string c.subject), ("issuer", .string c.issuer)]

/-- Reads a certificate. -/
def ofTree? (t : Tree) : Option Certificate :=
  match t.fields? ["subject", "issuer"] with
  | some [subject, issuer] => do
    return ⟨← Tree.required Tree.text? subject, ← Tree.required Tree.text? issuer⟩
  | _ => none

/-- A certificate in a diagnostic. -/
def diagnostic (c : Certificate) : String :=
  "Certificate \x7b subject: " ++ Text.quoted c.subject ++
    ", issuer: " ++ Text.quoted c.issuer ++ " \x7d"

end Certificate

/-- The **chain** a peer presented, leaf first. -/
structure Chain where
  leaf : Certificate
  rest : List Certificate
deriving DecidableEq, Repr

namespace Chain

/-- The certificates of a chain. -/
def toList (c : Chain) : List Certificate := c.leaf :: c.rest

/-- A chain from a list of certificates; the empty list is none. -/
def ofList? : List Certificate → Except Fault Chain
  | [] => .error (.authenticationFailed "empty certificate chain")
  | leaf :: rest => .ok ⟨leaf, rest⟩

/-- The principal a chain speaks for: the subject of its leaf. -/
def principal (c : Chain) : Principal := ⟨c.leaf.subject⟩

end Chain

/-! ### Evidence -/

/-- The **evidence** a caller presents. -/
inductive Evidence where
  | peerChain (chain : Chain)
  | passwordGuess (guess : String)
  | bearerToken (token : String)
deriving DecidableEq, Repr

namespace Evidence

/-- The kind of evidence. -/
def kind : Evidence → EvidenceKind
  | peerChain _ => .peerChain
  | passwordGuess _ => .passwordGuess
  | bearerToken _ => .bearerToken

/-- The **diagnostic** text: a chain in full, a secret as three stars. -/
def diagnostic : Evidence → String
  | peerChain chain =>
    "X509PeerCertificateChain(X509PeerCertificateChainEvidence \x7b chain: [" ++
      String.intercalate ", " (chain.toList.map Certificate.diagnostic) ++ "] \x7d)"
  | passwordGuess _ => "PasswordGuess \x7b guess: *** \x7d"
  | bearerToken _ => "BearerToken \x7b token: *** \x7d"

end Evidence

/-! ### Credentials -/

/-- A **credential** that a realm may hand out. -/
inductive Credential where
  | password (password : String)
  | certificateChain (chain : List Certificate)
  | bearerToken (token : String)
deriving DecidableEq, Repr

namespace Credential

/-- The kind of a credential. -/
def kind : Credential → CredentialKind
  | password _ => .password
  | certificateChain _ => .certificateChain
  | bearerToken _ => .bearerToken

/-- The **diagnostic** text names the kind only. -/
def diagnostic (c : Credential) : String :=
  "Credential(" ++ c.kind.label ++ ")"

end Credential

end CallGate

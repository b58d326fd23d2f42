import CallGate.Callback
import CallGate.Config
import CallGate.Evidence
import CallGate.Json.Form

/-!
# The types that travel

The written form of every type that goes over a wire or into a file: faults, the
configuration, identities with their parts, certificates, and the closed sets of names.
-/

namespace CallGate

/-! ### Records -/

/-- Faults: objects tagged by their `type`. -/
def Fault.form : Form Fault := ⟨toJson, ofTree?⟩

/-- Configurations; a missing setting has its default. -/
def Config.form : Form Config := ⟨toJson, ofTree?⟩

/-- Principals. -/
def Principal.form : Form Principal := ⟨toJson, ofTree?⟩

/-- Attributes; a missing one is unknown. -/
def Attributes.form : Form Attributes := ⟨toJson, ofTree?⟩

/-- Identities; roles and attributes may be missing. -/
def Identity.form : Form Identity := ⟨toJson, ofTree?⟩

/-- Certificates. -/
def Certificate.form : Form Certificate := ⟨toJson, ofTree?⟩

/-! ### Names -/

/-- Kinds of faults. -/
def FaultKind.form : Form FaultKind := .choice name all

/-- Levels of support. -/
def SupportLevel.form : Form SupportLevel := .choice name all

/-- Kinds of credentials. -/
def CredentialKind.form : Form CredentialKind := .choice name all

/-- Kinds of evidence. -/
def EvidenceKind.form : Form EvidenceKind := .choice name all

/-- Mechanisms. -/
def Mechanism.form : Form Mechanism := .choice wireName all

end CallGate

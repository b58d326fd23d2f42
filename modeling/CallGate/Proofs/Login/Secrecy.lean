import CallGate.Proofs.Login.Gates

/-!
# A Login Keeps Its Secret

The secret of a login request is the text of the password or of the token in its evidence. Two
logins are compared here whose requests differ in their secrets only. The second one may come to
the provider at another time, when the realm and the handler behind it have changed; what matters
is that whoever is asked in the first login answers alike in the second (`Provider.AnswersAlike`).
Then the logins cannot be told apart: gate by gate the second passage mirrors the first one, and
the only trace of the secret is in the questions to the realm.

## Main results

* `Provider.mirrors_checkpoints`: a passage is mirrored by that of a request with another secret.
* `Provider.secrecy_of_runLogin`: the result, the log, what the handler is shown, who is
  established and the diagnostic text of the request are the same.
-/

namespace CallGate

/-! ### Requests that differ in their secrets -/

/-- Two pieces of evidence are the **same but for their secret**. -/
inductive Evidence.SameButSecret : Evidence → Evidence → Prop
  | passwordGuess (guess other : String) :
      SameButSecret (.passwordGuess guess) (.passwordGuess other)
  | bearerToken (token other : String) :
      SameButSecret (.bearerToken token) (.bearerToken other)

namespace Evidence.SameButSecret

variable {evidence other : Evidence}

/-- Evidence with another secret is of the same kind. -/
theorem kind_eq (h : evidence.SameButSecret other) : other.kind = evidence.kind := by
  cases h <;> rfl

/-- The diagnostic text of evidence does not show its secret. -/
theorem diagnostic_eq (h : evidence.SameButSecret other) :
    evidence.diagnostic = other.diagnostic := by
  cases h <;> rfl

end Evidence.SameButSecret

/-- Two requests are the **same but for the secret** of their evidence. -/
structure LoginRequest.SameButSecret (request other : LoginRequest) : Prop where
  evidence : request.evidence.SameButSecret other.evidence
  authorizationId : other.authorizationId = request.authorizationId
  ip : other.ip = request.ip

namespace LoginRequest.SameButSecret

variable {request other : LoginRequest}

/-- Requests with different secrets come to the same gates. -/
theorem checkpoints_eq (h : request.SameButSecret other) :
    other.checkpoints = request.checkpoints := by
  rw [checkpoints, checkpoints, h.authorizationId]

/-- The diagnostic text of a request does not show its secret. -/
theorem diagnostic_eq (h : request.SameButSecret other) :
    request.diagnostic = other.diagnostic := by
  unfold diagnostic
  rw [h.evidence.diagnostic_eq, h.authorizationId, h.ip]

end LoginRequest.SameButSecret

/-- The same question about other evidence. -/
def Consultation.about (evidence : Evidence) : Consultation → Consultation
  | .identify _ => .identify (.ofEvidence evidence)
  | .verify _ => .verify evidence
  | question => question

/-- The batches that a handler is **shown**, in order. -/
def shown (consultations : List Consultation) : List (List Callback) :=
  consultations.filterMap fun
    | .handle batch => some batch
    | _ => none

/-- A handler is shown the same whatever the evidence. -/
theorem shown_map_about (evidence : Evidence) (consultations : List Consultation) :
    shown (consultations.map (.about evidence)) = shown consultations := by
  rw [shown, List.filterMap_map, shown]
  congr 1
  funext asked
  cases asked <;> rfl

namespace Provider

/-! ### Answers -/

section Sides

variable (p : Provider) (request : LoginRequest) (q : Provider) (other : LoginRequest)

/-- A question is **answered alike** in the logins of two requests. A realm that resolves the
evidence may do so to another realm identity, as long as that one answers alike. -/
def AnswersAlike : Consultation → Prop
  | .evidenceSupport kind => p.realm.evidenceSupport kind none = q.realm.evidenceSupport kind none
  | .identify _ => ∀ fault, p.realm.identify (.ofEvidence request.evidence) = .error fault ↔
      q.realm.identify (.ofEvidence other.evidence) = .error fault
  | .isPresent => ∀ found counterpart, p.Finds request found → q.Finds other counterpart →
      found.isPresent = counterpart.isPresent
  | .verify _ => ∀ found counterpart, p.Finds request found → q.Finds other counterpart →
      found.verify request.evidence = counterpart.verify other.evidence
  | .principal => ∀ found counterpart, p.Finds request found → q.Finds other counterpart →
      found.principal = counterpart.principal
  | .handle batch => p.handler.handle batch = q.handler.handle batch

/-- One login **mirrors** another through some gates: where all questions are answered alike, it
asks the same about its own evidence, logs the same and ends in the same way. -/
def Mirrors (gates : List Checkpoint) : Prop :=
  ∀ (consultations : List Consultation) (events : List Log.Event)
    (result : Except Fault Identity),
    p.Passage request gates consultations events result →
    (∀ asked ∈ consultations, AnswersAlike p request q other asked) →
    q.Passage other gates (consultations.map (.about other.evidence)) events result

end Sides

variable {p q : Provider} {request other : LoginRequest} {gates : List Checkpoint}
  {gate : Checkpoint} {asked : Consultation} {found counterpart : RealmIdentity}
  {principal : Principal}

/-- The same is overheard where a question is answered alike. -/
theorem AnswersAlike.overheard_eq (h : AnswersAlike p request q other asked) :
    q.overheard (asked.about other.evidence) = p.overheard asked := by
  cases asked with
  | handle batch => exact congrArg BatchAnswer.events h.symm
  | _ => rfl

/-- **One gate** is mirrored if the counterpart of its question is asked at the other one, and the
other one opens or refuses like it. -/
theorem Mirrors.cons (hasks : p.Asks request gate asked)
    (hcounterpart : q.Asks other gate (asked.about other.evidence))
    (hopens : AnswersAlike p request q other asked → p.Opens request gate →
      q.Opens other gate ∧ Mirrors p request q other gates)
    (hrefuses : AnswersAlike p request q other asked →
      ∀ fault, p.Refuses request gate fault → q.Refuses other gate fault) :
    Mirrors p request q other (gate :: gates) := by
  intro consultations events result hpassage halike
  cases hpassage with
  | opened hasked hopen hrest =>
      obtain rfl := hasked.unique hasks
      obtain ⟨hfirst, hlater⟩ := List.forall_mem_cons.mp halike
      obtain ⟨hopen, hmirrors⟩ := hopens hfirst hopen
      rw [← hfirst.overheard_eq, List.map_cons]
      exact .opened hcounterpart hopen (hmirrors _ _ _ hrest hlater)
  | refused hasked hrefused =>
      obtain rfl := hasked.unique hasks
      have hfirst := List.forall_mem_singleton.mp halike
      rw [← hfirst.overheard_eq, List.map_singleton]
      exact .refused hcounterpart (hrefuses hfirst _ hrefused)

/-! ### Gate by gate -/

/-- At the end the same principal is admitted. -/
theorem mirrors_nil (hrealm : p.realmName = q.realmName) (hmechanism : p.mechanism = q.mechanism)
    (hip : other.ip = request.ip) (hnames : p.Names request principal)
    (hother : q.Names other principal) : Mirrors p request q other [] := by
  intro consultations events result hpassage _
  cases hpassage with
  | admitted hnamed =>
      obtain rfl := hnames.unique hnamed
      rw [hrealm, hmechanism, ← hip]
      exact .admitted hother

/-- The handler is shown the same and decides alike. -/
theorem mirrors_authorization {authorizationId : String} (hnames : p.Names request principal)
    (hother : q.Names other principal) (hid : request.authorizationId = some authorizationId)
    (hidOther : other.authorizationId = some authorizationId)
    (hnext : Mirrors p request q other gates) :
    Mirrors p request q other (.authorization :: gates) := by
  have hgrants
      (halike : AnswersAlike p request q other (.handle (inquiry principal authorizationId))) :
      p.handler.Grants (inquiry principal authorizationId) ↔
        q.handler.Grants (inquiry principal authorizationId) := by
    have hanswer : p.handler.handle (inquiry principal authorizationId) =
        q.handler.handle (inquiry principal authorizationId) := halike
    constructor
    · rintro ⟨hanswered, hauthorized⟩
      exact ⟨hanswer ▸ hanswered, hanswer ▸ hauthorized⟩
    · rintro ⟨hanswered, hauthorized⟩
      exact ⟨hanswer ▸ hanswered, hanswer ▸ hauthorized⟩
  refine .cons (.authorization hnames hid) (.authorization hother hidOther)
    (fun halike hopens => ⟨?_, hnext⟩) fun halike fault hrefuses => ?_
  · cases hopens with
    | authorization hnamed hidAgain hgranted =>
        obtain rfl := hnames.unique hnamed
        obtain rfl := Option.some.inj (hid.symm.trans hidAgain)
        exact .authorization hother hidOther ((hgrants halike).mp hgranted)
  · have hanswer : p.handler.handle (inquiry principal authorizationId) =
        q.handler.handle (inquiry principal authorizationId) := halike
    cases hrefuses with
    | authorizationFailed hnamed hidAgain hfailed =>
        obtain rfl := hnames.unique hnamed
        obtain rfl := Option.some.inj (hid.symm.trans hidAgain)
        exact .authorizationFailed hother hidOther (hanswer ▸ hfailed)
    | denied hnamed hidAgain hanswered hdenied =>
        obtain rfl := hnames.unique hnamed
        obtain rfl := Option.some.inj (hid.symm.trans hidAgain)
        exact .denied hother hidOther (hanswer ▸ hanswered) (mt (hgrants halike).mpr hdenied)

/-- The realm identities name the same principal, if any. -/
theorem mirrors_principal (hfound : p.Finds request found) (hother : q.Finds other counterpart)
    (hnext : ∀ principal, p.Names request principal → q.Names other principal →
      Mirrors p request q other gates) :
    Mirrors p request q other (.principal :: gates) := by
  refine .cons .principal .principal (fun halike hopens => ?_) fun halike fault hrefuses => ?_
  · have hprincipal := halike found counterpart hfound hother
    cases hopens with
    | principal hnames =>
        obtain ⟨_, hagain, hnamed⟩ := id hnames
        obtain rfl := hfound.unique hagain
        have hnamesOther : q.Names other _ := ⟨counterpart, hother, hprincipal ▸ hnamed⟩
        exact ⟨.principal hnamesOther, hnext _ hnames hnamesOther⟩
  · have hprincipal := halike found counterpart hfound hother
    cases hrefuses with
    | nameless hagain hnone =>
        obtain rfl := hfound.unique hagain
        exact .nameless hother (hprincipal ▸ hnone)

/-- The realm identities verify alike. -/
theorem mirrors_verification (hfound : p.Finds request found) (hother : q.Finds other counterpart)
    (hnext : Mirrors p request q other gates) :
    Mirrors p request q other (.verification :: gates) := by
  refine .cons .verification .verification (fun halike hopens => ⟨?_, hnext⟩)
    fun halike fault hrefuses => ?_
  · have hverify := halike found counterpart hfound hother
    cases hopens with
    | verification hagain hverified =>
        obtain rfl := hfound.unique hagain
        exact .verification hother (hverify ▸ hverified)
  · have hverify := halike found counterpart hfound hother
    cases hrefuses with
    | verificationFailed hagain hfailed =>
        obtain rfl := hfound.unique hagain
        exact .verificationFailed hother (hverify ▸ hfailed)
    | unverified hagain hno =>
        obtain rfl := hfound.unique hagain
        exact .unverified hother (hverify ▸ hno)

/-- The realm identities are there alike. -/
theorem mirrors_presence (hfound : p.Finds request found) (hother : q.Finds other counterpart)
    (hnext : Mirrors p request q other gates) :
    Mirrors p request q other (.presence :: gates) := by
  refine .cons .presence .presence (fun halike hopens => ⟨?_, hnext⟩)
    fun halike fault hrefuses => ?_
  · have hpresent := halike found counterpart hfound hother
    cases hopens with
    | presence hagain hyes =>
        obtain rfl := hfound.unique hagain
        exact .presence hother (hpresent ▸ hyes)
  · have hpresent := halike found counterpart hfound hother
    cases hrefuses with
    | presenceFailed hagain hfailed =>
        obtain rfl := hfound.unique hagain
        exact .presenceFailed hother (hpresent ▸ hfailed)
    | absent hagain hno =>
        obtain rfl := hfound.unique hagain
        exact .absent hother (hpresent ▸ hno)

/-- The realm resolves both pieces of evidence, or fails with the same fault. -/
theorem mirrors_resolution
    (hnext : ∀ found counterpart, p.Finds request found → q.Finds other counterpart →
      Mirrors p request q other gates) :
    Mirrors p request q other (.resolution :: gates) := by
  refine .cons .resolution .resolution (fun halike hopens => ?_) fun halike fault hrefuses => ?_
  · cases hopens with
    | resolution hfound =>
        cases hother : q.realm.identify (.ofEvidence other.evidence) with
        | error fault =>
            have hfault := (halike fault).mpr hother
            rw [Finds, hfault] at hfound
            cases hfound
        | ok counterpart => exact ⟨.resolution hother, hnext _ _ hfound hother⟩
  · cases hrefuses with
    | resolutionFailed hfault => exact .resolutionFailed ((halike fault).mp hfault)

/-- The realm supports both pieces of evidence, which are of one kind, alike. -/
theorem mirrors_support (hrealm : p.realmName = q.realmName)
    (hkind : other.evidence.kind = request.evidence.kind)
    (hnext : Mirrors p request q other gates) :
    Mirrors p request q other (.support :: gates) := by
  have hasks : q.Asks other .support (.evidenceSupport request.evidence.kind) := hkind ▸ .support
  refine .cons .support hasks (fun halike hopens => ⟨?_, hnext⟩) fun halike fault hrefuses => ?_
  · have hsupport : q.realm.evidenceSupport other.evidence.kind none =
        p.realm.evidenceSupport request.evidence.kind none := by rw [hkind]; exact halike.symm
    cases hopens with
    | support hlevel hsupported => exact .support (hsupport.trans hlevel) hsupported
  · have hsupport : q.realm.evidenceSupport other.evidence.kind none =
        p.realm.evidenceSupport request.evidence.kind none := by rw [hkind]; exact halike.symm
    cases hrefuses with
    | supportFailed hfailed => exact .supportFailed (hsupport.trans hfailed)
    | unsupported hno =>
        rw [← hkind, hrealm]
        exact .unsupported (hsupport.trans hno)

/-! ### The whole login -/

/-- A login is **mirrored** by that of a request with another secret. -/
theorem mirrors_checkpoints (hrealm : p.realmName = q.realmName)
    (hmechanism : p.mechanism = q.mechanism) (hsame : request.SameButSecret other) :
    Mirrors p request q other request.checkpoints := by
  refine mirrors_support hrealm hsame.evidence.kind_eq (mirrors_resolution
    fun found counterpart hfound hother => ?_)
  refine mirrors_presence hfound hother (mirrors_verification hfound hother
    (mirrors_principal hfound hother fun principal hnames hnamesOther => ?_))
  have hend := mirrors_nil hrealm hmechanism hsame.ip hnames hnamesOther
  cases hid : request.authorizationId with
  | none => exact hend
  | some authorizationId =>
      exact mirrors_authorization hnames hnamesOther hid (hsame.authorizationId.trans hid) hend

/-- **A login keeps its secret.** Where everybody who is asked in the login of a request answers
alike in that of a request with another secret, the two logins have the same result, log the same,
show the handler the same and establish the same identity; they ask the same questions, each about
its own evidence. The diagnostic texts of the requests are the same. -/
theorem secrecy_of_runLogin (hrealm : p.realmName = q.realmName)
    (hmechanism : p.mechanism = q.mechanism) (hsame : request.SameButSecret other)
    (halike : ∀ asked ∈ (p.runLogin request).2.consultations,
      AnswersAlike p request q other asked) :
    (p.runLogin request).1 = (q.runLogin other).1 ∧
      (p.runLogin request).2.events = (q.runLogin other).2.events ∧
      (p.runLogin request).2.consultations.map (.about other.evidence) =
        (q.runLogin other).2.consultations ∧
      shown (p.runLogin request).2.consultations = shown (q.runLogin other).2.consultations ∧
      (∀ holder, (p.loginInto request holder).2 = (q.loginInto other holder).2) ∧
      request.diagnostic = other.diagnostic := by
  have hmirrored : q.Passage other request.checkpoints
      ((p.runLogin request).2.consultations.map (.about other.evidence))
      (p.runLogin request).2.events (p.runLogin request).1 :=
    mirrors_checkpoints hrealm hmechanism hsame _ _ _ (passage_of_runLogin p request) halike
  have hpassage := passage_of_runLogin q other
  rw [hsame.checkpoints_eq] at hpassage
  obtain ⟨hasked, hevents, hresult⟩ := hmirrored.unique hpassage
  refine ⟨hresult, hevents, hasked, ?_, fun holder => ?_, hsame.diagnostic_eq⟩
  · rw [← hasked, shown_map_about]
  · rw [loginInto, loginInto, hresult]

/-- Alice, who has two passwords. -/
def twoPasswords : RealmIdentity :=
  { RealmIdentity.absent with
    principal := some ⟨"alice"⟩
    isPresent := .ok true
    verify := fun evidence =>
      .ok (evidence == .passwordGuess "hunter2" || evidence == .passwordGuess "swordfish") }

/-- A provider that knows Alice and lets everybody act as themselves. -/
def passwordProvider : Provider where
  realmName := "staff"
  mechanism := .plain
  realm :=
    { credentialSupport := fun _ _ => .ok .unsupported
      evidenceSupport := fun _ _ => .ok .supported
      identify := fun _ => .ok twoPasswords }
  handler := .clientCertificate

/-- A login of Alice with a password, who asks to act as herself. -/
def passwordRequest (guess : String) : LoginRequest := ⟨.passwordGuess guess, some "alice", none⟩

/-- Nobody can tell with which of her passwords Alice has logged in. -/
theorem secret_passwordRequest :
    (∃ identity, (passwordProvider.runLogin (passwordRequest "hunter2")).1 = .ok identity ∧
        (passwordProvider.runLogin (passwordRequest "swordfish")).1 = .ok identity) ∧
      (passwordProvider.runLogin (passwordRequest "hunter2")).2.events =
        (passwordProvider.runLogin (passwordRequest "swordfish")).2.events ∧
      (passwordRequest "hunter2").diagnostic = (passwordRequest "swordfish").diagnostic := by
  have hfinds (guess : String) (found : RealmIdentity)
      (h : passwordProvider.Finds (passwordRequest guess) found) : found = twoPasswords :=
    (Except.ok.inj h).symm
  have halike (asked : Consultation) : AnswersAlike passwordProvider (passwordRequest "hunter2")
      passwordProvider (passwordRequest "swordfish") asked := by
    cases asked with
    | evidenceSupport | handle => rfl
    | identify => exact fun fault => ⟨fun h => (by cases h), fun h => (by cases h)⟩
    | isPresent | principal =>
        intro found counterpart hfound hcounterpart
        rw [hfinds _ _ hfound, hfinds _ _ hcounterpart]
    | verify =>
        intro found counterpart hfound hcounterpart
        rw [hfinds _ _ hfound, hfinds _ _ hcounterpart]
        rfl
  have hsame : (passwordRequest "hunter2").SameButSecret (passwordRequest "swordfish") :=
    ⟨.passwordGuess "hunter2" "swordfish", rfl, rfl⟩
  obtain ⟨hresult, hevents, -, -, -, hdiagnostic⟩ :=
    secrecy_of_runLogin rfl rfl hsame fun asked _ => halike asked
  exact ⟨⟨_, rfl, hresult ▸ rfl⟩, hevents, hdiagnostic⟩

end Provider

end CallGate

import CallGate.Proofs.Login.Establishment

/-!
# Logging In with a Certificate

The provider of client-certificate connections is put together from a realm that believes every
chain, the identity of a chain's leaf, and a handler that lets a caller act as itself only. What
comes out is that a login succeeds exactly with a chain whose leaf has the name that the caller
wants to act under, if it wants to act under any, and then the caller is who the leaf says. Nothing
else about the chain matters. Every chain has a leaf, because none is made of no certificates.

So in a lobby where everybody logs in with certificates, nobody is held who was not presented as
the subject of a leaf or put in directly.

## Main results

* `Provider.runLogin_leaf`, `Provider.runLogin_foreign`, `Provider.runLogin_secret`: what a login
  comes to, by what is presented.
* `Provider.certificate_of_runLogin`: who logs in with a certificate.
-/

namespace CallGate

/-- A chain is read off a list exactly if the list has its leaf in front. -/
theorem Chain.ofList?_eq_ok_iff {certificates : List Certificate} {chain : Chain} :
    Chain.ofList? certificates = .ok chain ↔
      certificates[0]? = some chain.leaf ∧ chain.toList = certificates := by
  cases certificates with
  | nil => simp [ofList?]
  | cons leaf rest =>
      constructor
      · intro h
        obtain rfl := Except.ok.inj h
        exact ⟨rfl, rfl⟩
      · rintro ⟨-, h⟩
        obtain ⟨rfl, rfl⟩ := List.cons.inj h
        rfl

/-- The client-certificate handler grants to act as oneself, and as nobody else. -/
theorem Handler.clientCertificate_grants_iff {principal : Principal} {authorizationId : String} :
    Handler.clientCertificate.Grants (Provider.inquiry principal authorizationId) ↔
      authorizationId = principal.name := by
  have hleft : (Handler.clientCertificate.handle
      (Provider.inquiry principal authorizationId)).callbacks =
        [.authorize ⟨principal.name, authorizationId, principal.name == authorizationId⟩] := rfl
  constructor
  · rintro ⟨-, authorization, rest, hcallbacks, hauthorized⟩
    rw [hleft] at hcallbacks
    obtain ⟨hfirst, -⟩ := List.cons.inj hcallbacks
    obtain rfl := Callback.authorize.inj hfirst
    exact (beq_iff_eq.mp hauthorized).symm
  · rintro rfl
    exact ⟨rfl, _, [], hleft, beq_self_eq_true _⟩

namespace Provider

variable {realmName : String} {request : LoginRequest} {chain : Chain}

/-! ### The gates of a chain -/

/-- The identity of a leaf's **subject**, and where it comes from. -/
def leafIdentity (realmName subject : String) (ip : Option String) : Identity where
  principal := ⟨subject⟩
  roles := []
  attributes := { realm := some realmName, mechanism := some "CLIENT_CERT", ip }

/-- The realm finds the leaf of a chain. -/
theorem finds_leaf (hchain : request.evidence = .peerChain chain) :
    (clientCertificate realmName).Finds request (ClientCertificate.identity chain) := by
  rw [Finds, hchain]
  rfl

/-- The principal of a chain is the subject of its leaf. -/
theorem names_leaf (hchain : request.evidence = .peerChain chain) :
    (clientCertificate realmName).Names request ⟨chain.leaf.subject⟩ :=
  ⟨_, finds_leaf hchain, rfl⟩

/-- Every gate at the realm opens for a chain. -/
theorem opens_of_ofRealm (hchain : request.evidence = .peerChain chain) {gate : Checkpoint}
    (hgate : gate ∈ Checkpoint.ofRealm) : (clientCertificate realmName).Opens request gate := by
  cases gate with
  | support =>
      have hlevel : (clientCertificate realmName).realm.evidenceSupport request.evidence.kind none =
          .ok .supported := by
        rw [hchain]
        rfl
      exact .support hlevel (by decide)
  | resolution => exact .resolution (finds_leaf hchain)
  | presence => exact .presence (finds_leaf hchain) rfl
  | verification =>
      have hverified : (ClientCertificate.identity chain).verify request.evidence = .ok true := by
        rw [hchain]
        rfl
      exact .verification (finds_leaf hchain) hverified
  | principal => exact .principal (names_leaf hchain)
  | authorization => exact absurd hgate (by decide)

/-! ### What a login comes to -/

/-- With a chain, a caller that acts as nobody else **succeeds** as the subject of the leaf. -/
theorem runLogin_leaf (hchain : request.evidence = .peerChain chain)
    (hself : ∀ id, request.authorizationId = some id → id = chain.leaf.subject) :
    ((clientCertificate realmName).runLogin request).1 =
      .ok (leafIdentity realmName chain.leaf.subject request.ip) := by
  have hopens : ∀ gate ∈ request.checkpoints, (clientCertificate realmName).Opens request gate := by
    intro gate hgate
    rcases List.mem_append.mp hgate with hrealm | hhandler
    · exact opens_of_ofRealm hchain hrealm
    · cases hid : request.authorizationId with
      | none => simp [hid] at hhandler
      | some id =>
          rw [hid] at hhandler
          obtain rfl := List.mem_singleton.mp hhandler
          exact .authorization (names_leaf hchain) hid
            (Handler.clientCertificate_grants_iff.mpr (hself id hid))
  exact (passage_of_runLogin _ request).eq_ok_of_opens hopens (names_leaf hchain)

/-- With a chain, a caller that acts as somebody else is **denied**. -/
theorem runLogin_foreign (hchain : request.evidence = .peerChain chain) {id : String}
    (hid : request.authorizationId = some id) (hforeign : id ≠ chain.leaf.subject) :
    ((clientCertificate realmName).runLogin request).1 = .error (.authenticationFailed
      ("'" ++ chain.leaf.subject ++ "' may not act as '" ++ id ++ "'")) := by
  have hgates : request.checkpoints = Checkpoint.ofRealm ++ .authorization :: [] :=
    LoginRequest.checkpoints_eq_iff.mpr ⟨by simp [hid], rfl, rfl⟩
  have hnames : (clientCertificate realmName).Names request ⟨chain.leaf.subject⟩ :=
    names_leaf hchain
  have hdenied : ¬ (clientCertificate realmName).handler.Grants
      (inquiry ⟨chain.leaf.subject⟩ id) :=
    fun hgrants => hforeign (Handler.clientCertificate_grants_iff.mp hgrants)
  have hrefuses := Refuses.denied hnames hid rfl hdenied
  exact (passage_of_runLogin _ request).eq_error_of_refuses hgates
    (fun _ => opens_of_ofRealm hchain) hrefuses

/-- With a **secret**, nobody succeeds. -/
theorem runLogin_secret (hsecret : ∀ chain, request.evidence ≠ .peerChain chain) :
    ((clientCertificate realmName).runLogin request).1 =
      .error (.authenticationFailed ("evidence " ++ request.evidence.kind.label ++
        " not supported by realm '" ++ realmName ++ "'")) := by
  have hlevel : (clientCertificate realmName).realm.evidenceSupport request.evidence.kind none =
      .ok .unsupported := by
    cases hevidence : request.evidence with
    | peerChain chain => exact absurd hevidence (hsecret chain)
    | passwordGuess guess => rfl
    | bearerToken token => rfl
  obtain ⟨rest, hgates⟩ : ∃ rest, request.checkpoints = [] ++ .support :: rest := ⟨_, rfl⟩
  exact (passage_of_runLogin _ request).eq_error_of_refuses hgates (List.forall_mem_nil _)
    (.unsupported hlevel)

/-- A login with a chain, by whether the caller acts as itself; and a login without one. -/
theorem runLogin_cases (realmName : String) (request : LoginRequest) :
    (∃ chain, request.evidence = .peerChain chain ∧
      (∀ id, request.authorizationId = some id → id = chain.leaf.subject) ∧
      ((clientCertificate realmName).runLogin request).1 =
        .ok (leafIdentity realmName chain.leaf.subject request.ip)) ∨
    (∃ message, ((clientCertificate realmName).runLogin request).1 =
      .error (.authenticationFailed message)) := by
  by_cases hsecret : ∀ chain, request.evidence ≠ .peerChain chain
  · exact .inr ⟨_, runLogin_secret hsecret⟩
  · push Not at hsecret
    obtain ⟨chain, hchain⟩ := hsecret
    by_cases hself : ∀ id, request.authorizationId = some id → id = chain.leaf.subject
    · exact .inl ⟨chain, hchain, hself, runLogin_leaf hchain hself⟩
    · push Not at hself
      obtain ⟨id, hid, hforeign⟩ := hself
      exact .inr ⟨_, runLogin_foreign hchain hid hforeign⟩

/-- Only the subject of its leaf **matters** about a chain. -/
theorem runLogin_eq_of_subject {other : LoginRequest} {otherChain : Chain}
    (hchain : request.evidence = .peerChain chain)
    (hother : other.evidence = .peerChain otherChain)
    (hsame : chain.leaf.subject = otherChain.leaf.subject)
    (hid : request.authorizationId = other.authorizationId) (hip : request.ip = other.ip) :
    ((clientCertificate realmName).runLogin request).1 =
      ((clientCertificate realmName).runLogin other).1 := by
  by_cases hself : ∀ id, request.authorizationId = some id → id = chain.leaf.subject
  · rw [runLogin_leaf hchain hself]
    rw [hid, hsame] at hself
    rw [runLogin_leaf hother hself, hsame, hip]
  · push Not at hself
    obtain ⟨id, hacting, hforeign⟩ := hself
    rw [runLogin_foreign hchain hacting hforeign]
    rw [hid] at hacting
    rw [hsame] at hforeign
    rw [runLogin_foreign hother hacting hforeign, hsame]

/-- Who is held in a lobby where everybody logs in with certificates was **presented**, or put in
directly. -/
theorem presented_of_run? {moves : List Lobby.Move} {l : Lobby} {told : List Lobby.Visit}
    (hrun : ({} : Lobby).run? moves = some (l, told))
    (hproviders : ∀ provider attached request, .login provider attached request ∈ moves →
      ∃ realmName, provider = clientCertificate realmName)
    {handle : Nat} {identity : Identity} (hheld : l.current handle = some identity) :
    (∃ realmName attached request chain,
      .login (clientCertificate realmName) (some attached) request ∈ moves ∧
        request.evidence = .peerChain chain ∧ chain.leaf.subject = identity.principal.name) ∨
      ∃ other, .establish other identity ∈ moves := by
  rcases Lobby.mem_of_current hrun hheld with
    hput | ⟨provider, attached, request, hlogin, hresult⟩
  · exact .inr hput
  · obtain ⟨realmName, rfl⟩ := hproviders _ _ _ hlogin
    rcases runLogin_cases realmName request with ⟨chain, hchain, -, hok⟩ | ⟨message, herror⟩
    · rw [hok] at hresult
      obtain rfl := Except.ok.inj hresult
      exact .inl ⟨realmName, attached, request, chain, hlogin, hchain, rfl⟩
    · rw [herror] at hresult
      cases hresult

/-- **Logging in with a certificate** succeeds exactly with a chain, for a caller that acts as
nobody but the subject of its leaf, and that subject is who it then is. Every failure is a failed
authentication. Chains with the same subject of their leaf give the same result. Whatever
certificates are presented, there are none and they make no chain, or the first of them is the leaf
of a chain. Where everybody logs in with certificates, nobody is held who was not presented as the
subject of a leaf or put in directly. -/
theorem certificate_of_runLogin (realmName : String) (request : LoginRequest) :
    (∀ identity, ((clientCertificate realmName).runLogin request).1 = .ok identity ↔
      ∃ chain, request.evidence = .peerChain chain ∧
        (∀ id, request.authorizationId = some id → id = chain.leaf.subject) ∧
        identity = leafIdentity realmName chain.leaf.subject request.ip) ∧
    (∀ fault, ((clientCertificate realmName).runLogin request).1 = .error fault →
      ∃ message, fault = .authenticationFailed message) ∧
    (∀ chain other : Chain, chain.leaf.subject = other.leaf.subject →
      ((clientCertificate realmName).runLogin { request with evidence := .peerChain chain }).1 =
        ((clientCertificate realmName).runLogin { request with evidence := .peerChain other }).1) ∧
    (∀ certificates,
      (certificates = [] ∧
        Chain.ofList? certificates = .error (.authenticationFailed "empty certificate chain")) ∨
      ∃ chain, Chain.ofList? certificates = .ok chain ∧
        certificates[0]? = some chain.leaf ∧ chain.toList = certificates) ∧
    (∀ (moves : List Lobby.Move) (l : Lobby) (told : List Lobby.Visit),
      ({} : Lobby).run? moves = some (l, told) →
      (∀ provider attached request, .login provider attached request ∈ moves →
        ∃ realmName, provider = clientCertificate realmName) →
      ∀ handle identity, l.current handle = some identity →
        (∃ realmName attached request chain,
          .login (clientCertificate realmName) (some attached) request ∈ moves ∧
            request.evidence = .peerChain chain ∧
            chain.leaf.subject = identity.principal.name) ∨
          ∃ other, .establish other identity ∈ moves) := by
  refine ⟨fun identity => ?_, fun fault hfault => ?_, fun chain other hsame => ?_,
    fun certificates => ?_, fun _ _ _ hrun hproviders _ _ => presented_of_run? hrun hproviders⟩
  · constructor
    · intro hok
      rcases runLogin_cases realmName request with ⟨chain, hchain, hself, hleaf⟩ | ⟨_, herror⟩
      · rw [hleaf] at hok
        exact ⟨chain, hchain, hself, (Except.ok.inj hok).symm⟩
      · rw [herror] at hok
        cases hok
    · rintro ⟨chain, hchain, hself, rfl⟩
      exact runLogin_leaf hchain hself
  · rcases runLogin_cases realmName request with ⟨_, -, -, hleaf⟩ | ⟨message, herror⟩
    · rw [hleaf] at hfault
      cases hfault
    · rw [herror] at hfault
      exact ⟨message, (Except.error.inj hfault).symm⟩
  · exact runLogin_eq_of_subject rfl rfl hsame rfl rfl
  · cases certificates with
    | nil => exact .inl ⟨rfl, rfl⟩
    | cons leaf rest => exact .inr ⟨⟨leaf, rest⟩, rfl, Chain.ofList?_eq_ok_iff.mp rfl⟩

/-- Mallory fails to act as alice with her own certificate. Alice logs in with hers. -/
def badgeMoves : List Lobby.Move :=
  [.create,
    .login (clientCertificate "staff") (some 0)
      ⟨.peerChain ⟨⟨"mallory", "root"⟩, [⟨"alice", "root"⟩]⟩, some "alice", none⟩,
    .login (clientCertificate "staff") (some 0)
      ⟨.peerChain ⟨⟨"alice", "root"⟩, []⟩, some "alice", none⟩]

/-- It is alice who is held, and there is a chain that she was presented with. -/
theorem presented_badgeMoves :
    ∃ l told, ({} : Lobby).run? badgeMoves = some (l, told) ∧
      (l.current 0).map Identity.name = some "alice" ∧
      ∃ realmName attached request chain,
        .login (clientCertificate realmName) (some attached) request ∈ badgeMoves ∧
          request.evidence = .peerChain chain ∧ chain.leaf.subject = "alice" := by
  obtain ⟨l, told, identity, hrun, hheld, hname⟩ : ∃ l told identity,
      ({} : Lobby).run? badgeMoves = some (l, told) ∧ l.current 0 = some identity ∧
        identity.principal.name = "alice" := ⟨_, _, _, rfl, rfl, rfl⟩
  obtain ⟨-, -, -, -, hpresented⟩ :=
    certificate_of_runLogin "staff" ⟨.peerChain ⟨⟨"alice", "root"⟩, []⟩, some "alice", none⟩
  refine ⟨l, told, hrun, by rw [hheld]; exact congrArg some hname, ?_⟩
  have hproviders : ∀ provider attached request, .login provider attached request ∈ badgeMoves →
      ∃ realmName, provider = clientCertificate realmName := by
    intro provider attached request hlogin
    simp only [badgeMoves, List.mem_cons, List.not_mem_nil, Lobby.Move.login.injEq] at hlogin
    rcases hlogin with h | ⟨h, -⟩ | ⟨h, -⟩ | h
    · cases h
    · exact ⟨_, h⟩
    · exact ⟨_, h⟩
    · cases h
  rcases hpresented badgeMoves l told hrun hproviders 0 identity hheld with
    hchain | ⟨other, hput⟩
  · rw [hname] at hchain
    exact hchain
  · simp [badgeMoves] at hput

end Provider

end CallGate

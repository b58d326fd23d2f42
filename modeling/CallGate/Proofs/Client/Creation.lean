import CallGate.Access

/-!
# Clients Are Made by Permission

A factory is what its settings say last: the last policy and the last word on whether it is asked
(`Factory.ofSettings_eq`), so that the order between the two kinds of settings does not matter. If
it is asked, then once for every client (`Policy.Asked`), and each client is made or refused as the
answer to it says (`Factory.verdict`), whoever is to use it: a super-user client is only made around
an ordinary one. The policy may have a state, may count what it is asked, and may answer another
way each time.

## Main results

* `Factory.create_of_enforce`, `Factory.create_of_not_enforce` — one client.
* `Factory.createAll_of_enforce`, `Factory.createAll_of_not_enforce` — any number of them.
* `Factory.creation_of_settings` — every factory that can be set up, and every client it makes.
-/

namespace CallGate

variable {σ : Type}

/-- A policy **is asked** for access to the controller, once for each answer and for nothing else;
its state goes from one question to the next. -/
inductive Policy.Asked (p : Policy σ) : σ → List (Except Fault Unit) → σ → Prop
  | nil {s : σ} : Asked p s [] s
  | cons {s next after : σ} {answer : Except Fault Unit} {answers : List (Except Fault Unit)} :
      p.check .controllerAccess s = (answer, next) → Asked p next answers after →
      Asked p s (answer :: answers) after

/-- Whatever a policy **leaves alone** when it is asked, it leaves alone however often. -/
theorem Policy.Asked.frame {τ : Type} {p : Policy σ} {read : σ → τ}
    {s after : σ} {answers : List (Except Fault Unit)}
    (hread : ∀ s, read (p.check .controllerAccess s).2 = read s) (h : p.Asked s answers after) :
    read after = read s := by
  induction h with
  | nil => rfl
  | @cons s next after answer answers hcheck _ ih =>
      rw [ih, ← hread s, hcheck]

namespace Factory

/-! ### The last word -/

/-- The policy of a setting. -/
def Setting.policy? : Setting σ → Option (Policy σ)
  | .policy p => some p
  | .config _ => none

/-- The configuration of a setting. -/
def Setting.config? : Setting σ → Option Config
  | .policy _ => none
  | .config c => some c

/-- The policy that was **installed last**, or the one that permits all. -/
def installed (settings : List (Setting σ)) : Policy σ :=
  (settings.filterMap Setting.policy?).getLast?.getD (.permitAll σ)

/-- Whether the policy **is asked**: as the configuration says that was applied last, and if there
was none it is. -/
def enforced (settings : List (Setting σ)) : Bool :=
  ((settings.filterMap Setting.config?).getLast?.map Config.enforceAccess).getD true

/-- A setting replaces its own part of a factory and leaves the other as it is. -/
theorem foldl_set (f : Factory σ) (settings : List (Setting σ)) :
    settings.foldl set f =
      ⟨(settings.filterMap Setting.policy?).getLast?.getD f.policy,
        ((settings.filterMap Setting.config?).getLast?.map Config.enforceAccess).getD
          f.enforce⟩ := by
  -- The factory varies: whatever it was, the last of the rest replaces it.
  induction settings generalizing f with
  | nil => rfl
  | cons setting rest ih =>
      rw [List.foldl_cons, ih]
      cases setting with
      | policy p =>
          have hpolicy : (Setting.policy p).policy? = some p := rfl
          have hconfig : (Setting.policy p).config? = none := rfl
          rw [List.filterMap_cons_some hpolicy, List.filterMap_cons_none hconfig,
            List.getLast?_cons]
          rfl
      | config c =>
          have hpolicy : (Setting.config (σ := σ) c).policy? = none := rfl
          have hconfig : (Setting.config (σ := σ) c).config? = some c := rfl
          rw [List.filterMap_cons_none hpolicy, List.filterMap_cons_some hconfig,
            List.getLast?_cons]
          cases (rest.filterMap Setting.config?).getLast? <;> rfl

/-- A factory is what its settings say **last**. -/
theorem ofSettings_eq (settings : List (Setting σ)) :
    ofSettings settings = ⟨installed settings, enforced settings⟩ :=
  foldl_set {} settings

/-! ### Making clients -/

/-- The **verdict** on a client: it is made if the answer is that it may, and otherwise the fault
is the policy's own, with one event that tells of it. -/
def verdict (wanted : Client) : Except Fault Unit → Except Fault Client × List Log.Event
  | .ok () => (.ok wanted, [])
  | .error fault => (.error fault, [deniedEvent fault])

/-- The **decision** on a client, whatever client it was on. -/
def decision (made : Except Fault Client × List Log.Event) : Except Fault Unit × List Log.Event :=
  (made.1.map fun _ => (), made.2)

/-- The decision is the answer, on any client. -/
theorem decision_verdict (client other : Client) (answer : Except Fault Unit) :
    decision (verdict client answer) = decision (verdict other answer) := by
  cases answer <;> rfl

variable {f : Factory σ}

/-- A factory that asks makes a client by **one question**, and by the verdict on the answer. -/
theorem create_of_enforce {s next : σ} {answer : Except Fault Unit} (henforce : f.enforce = true)
    (hcheck : f.policy.check .controllerAccess s = (answer, next)) (wanted : Client) :
    f.create wanted.superUser wanted.hasExecutor s = (verdict wanted answer, next) := by
  obtain ⟨superUser, hasExecutor⟩ := wanted
  rw [create, createLocal, if_pos henforce, hcheck]
  cases answer <;> cases superUser <;> rfl

/-- A factory that does not ask makes every client, and asks **no question**. -/
theorem create_of_not_enforce (henforce : f.enforce = false) (wanted : Client) (s : σ) :
    f.create wanted.superUser wanted.hasExecutor s = ((.ok wanted, []), s) := by
  obtain ⟨superUser, hasExecutor⟩ := wanted
  rw [create, createLocal, if_neg (by simp [henforce])]
  cases superUser <;> rfl

/-- A factory that asks makes clients by **one question for each**. -/
theorem createAll_of_enforce (henforce : f.enforce = true) (wanted : List Client) (s : σ) :
    ∃ answers after, answers.length = wanted.length ∧ f.policy.Asked s answers after ∧
      f.createAll wanted s = (List.zipWith verdict wanted answers, after) := by
  induction wanted generalizing s with
  | nil => exact ⟨[], s, rfl, .nil, rfl⟩
  | cons client rest ih =>
      obtain ⟨answers, after, hlength, hasked, hrest⟩ := ih (f.policy.check .controllerAccess s).2
      refine ⟨(f.policy.check .controllerAccess s).1 :: answers, after, ?_, .cons rfl hasked, ?_⟩
      · rw [List.length_cons, hlength, List.length_cons]
      · rw [createAll, create_of_enforce henforce rfl client]
        dsimp only
        rw [hrest, List.zipWith_cons_cons]

/-- A factory that does not ask makes all clients, and asks **no question**. -/
theorem createAll_of_not_enforce (henforce : f.enforce = false) (wanted : List Client) (s : σ) :
    f.createAll wanted s = (wanted.map fun client => (.ok client, []), s) := by
  induction wanted with
  | nil => rfl
  | cons client rest ih =>
      rw [createAll, create_of_not_enforce henforce client]
      dsimp only
      rw [ih, List.map_cons]

/-- The decision on a client depends on **the answer only**: not on whether it is a super-user
client, nor on its executor. -/
theorem decision_create {s t : σ}
    (hanswer : (f.policy.check .controllerAccess s).1 = (f.policy.check .controllerAccess t).1)
    (client other : Client) :
    decision (f.create client.superUser client.hasExecutor s).1 =
      decision (f.create other.superUser other.hasExecutor t).1 := by
  cases henforce : f.enforce with
  | false => rw [create_of_not_enforce henforce, create_of_not_enforce henforce]; rfl
  | true =>
      rw [create_of_enforce henforce rfl, create_of_enforce henforce rfl, hanswer]
      exact decision_verdict ..

/-- What making clients **leaves alone**: all that the policy leaves alone. -/
theorem createAll_frame {τ : Type} {read : σ → τ}
    (hread : ∀ s, read (f.policy.check .controllerAccess s).2 = read s) (wanted : List Client)
    (s : σ) : read (f.createAll wanted s).2 = read s := by
  cases henforce : f.enforce with
  | false => rw [createAll_of_not_enforce henforce]
  | true =>
      obtain ⟨answers, after, -, hasked, hall⟩ := createAll_of_enforce henforce wanted s
      rw [hall]
      exact hasked.frame hread

/-! ### Every factory -/

/-- **A client is made by permission only.** However a factory was set up, it makes clients by the
policy that was installed last and by nobody else's word: if the configuration that was applied
last does not say otherwise, the policy is asked once for each client, for access to the
controller, and the client is made if the answer is that it may; otherwise it is refused with the
policy's own fault and one warning. If the policy is not to be asked, every client is made and
nothing happens besides; and where no policy was installed, whoever is asked permits it and changes
nothing. Nothing is touched that the policy does not touch. A super-user client is
decided on as an ordinary one is, with the same events; and settings of the two kinds can be
made in any order. -/
theorem creation_of_settings (settings : List (Setting σ)) (wanted : List Client) (s : σ) :
    (enforced settings = true →
      ∃ answers after, answers.length = wanted.length ∧
        (installed settings).Asked s answers after ∧
        (ofSettings settings).createAll wanted s = (List.zipWith verdict wanted answers, after)) ∧
    (enforced settings = false →
      (ofSettings settings).createAll wanted s =
        (wanted.map fun client => (.ok client, []), s)) ∧
    (settings.filterMap Setting.policy? = [] →
      ∀ permission s, (installed settings).check permission s = (.ok (), s)) ∧
    (∀ client answer,
      ((∃ made, (verdict client answer).1 = .ok made) ↔ answer = .ok ()) ∧
      ∀ fault, answer = .error fault → ∃ event,
        verdict client answer = (.error fault, [event]) ∧ event.level = .warn) ∧
    (∀ {τ : Type} (read : σ → τ),
      (∀ s, read ((installed settings).check .controllerAccess s).2 = read s) →
        read ((ofSettings settings).createAll wanted s).2 = read s) ∧
    (∀ (client other : Client) (s t : σ),
      ((installed settings).check .controllerAccess s).1 =
          ((installed settings).check .controllerAccess t).1 →
        decision ((ofSettings settings).create client.superUser client.hasExecutor s).1 =
          decision ((ofSettings settings).create other.superUser other.hasExecutor t).1) ∧
    ∀ others : List (Setting σ),
      others.filterMap Setting.policy? = settings.filterMap Setting.policy? →
      others.filterMap Setting.config? = settings.filterMap Setting.config? →
        ofSettings others = ofSettings settings := by
  rw [ofSettings_eq]
  refine ⟨fun henforced => ?_, fun henforced => ?_, fun hnone permission s => ?_,
    fun client answer => ⟨?_, ?_⟩,
    fun read hread => ?_, fun client other s t hanswer => ?_, fun others hpolicies hconfigs => ?_⟩
  · exact createAll_of_enforce (f := ⟨_, _⟩) henforced wanted s
  · exact createAll_of_not_enforce (f := ⟨_, _⟩) henforced wanted s
  · rw [installed, hnone]
    rfl
  · cases answer <;> simp [verdict]
  · rintro fault rfl
    exact ⟨_, rfl, rfl⟩
  · exact createAll_frame hread wanted s
  · exact decision_create hanswer client other
  · rw [ofSettings_eq, installed, enforced, hpolicies, hconfigs]
    rfl

end Factory

end CallGate

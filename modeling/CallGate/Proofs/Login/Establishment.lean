import CallGate.Lobby
import CallGate.Proofs.Login.Gates

/-!
# Who Is Established

A login establishes whom it has authenticated, and nobody else. It goes through to the holder only
after its last gate: as long as one of them refuses, the lobby is left exactly as it was. So who is
held where a handle leads is fixed by the visits to that holder, through whichever handle they
came: it is the last change that one of them made (`Lobby.changes`), which is the identity of the
last successful login or of the last one that was put in directly, or nobody after a clear.

## Main results

* `Lobby.current_of_run?`: who is held is the last change.
* `Lobby.mem_of_current`: who is held was put in directly, or logged in.
* `Lobby.establishment_of_run?`: a login changes the holder if it succeeds, and only then, and says
  so in the log.
-/

namespace CallGate

namespace Lobby

/-! ### What a visit changes -/

/-- What a visit **puts** in a place: an identity, or nobody; and nothing if it leaves the holder
there alone. -/
def Visit.change? (place : Nat) : Visit → Option (Option Identity)
  | established visited identity => if visited = place then some (some identity) else none
  | cleared visited _ => if visited = place then some none else none
  | loggedIn (some visited) (.ok identity) _ =>
    if visited = place then some (some identity) else none
  | loggedIn _ _ _ => none

/-- The **changes** in a place, in order. -/
def changes (place : Nat) (told : List Visit) : List (Option Identity) :=
  told.filterMap (Visit.change? place)

/-- The changes in two parts of what was told. -/
theorem changes_append (place : Nat) (told more : List Visit) :
    changes place (told ++ more) = changes place told ++ changes place more :=
  List.filterMap_append

/-- The lobby with another holder in a place. -/
def withHolder (l : Lobby) (place : Nat) (holder : Holder) : Lobby :=
  { l with holders := l.holders.set place holder }

/-- Every handle **leads** to a holder. -/
def Sound (l : Lobby) : Prop := ∀ place ∈ l.handles, place < l.holders.length

/-- Who is held somewhere is **replaced**, for every handle that leads there, and for no other. -/
def Replaced (l next : Lobby) (place : Nat) (held : Option Identity) : Prop :=
  ∀ handle, next.current handle = if l.handles[handle]? = some place then held else l.current handle

/-! ### Steps -/

/-- The **steps** of a lobby: the lobby before, the move, the lobby after it and the visits. -/
inductive Step : Lobby → Move → Lobby → List Visit → Prop
  | created {l : Lobby} :
      Step l .create ⟨l.holders ++ [({} : Holder)], l.handles ++ [l.holders.length]⟩ []
  | shared {l : Lobby} {handle place : Nat} :
      l.handles[handle]? = some place →
      Step l (.share handle) { l with handles := l.handles ++ [place] } []
  | established {l : Lobby} {handle place : Nat} {identity : Identity} {holder : Holder} :
      l.handles[handle]? = some place → l.holders[place]? = some holder →
      Step l (.establish handle identity) (l.withHolder place ⟨some identity⟩)
        [.established place identity]
  | cleared {l : Lobby} {handle place : Nat} {holder : Holder} :
      l.handles[handle]? = some place → l.holders[place]? = some holder →
      Step l (.clear handle) (l.withHolder place {}) [.cleared place holder.current]
  /-- A login succeeds and establishes its identity. -/
  | loggedIn {l : Lobby} {handle place : Nat} {holder : Holder} {provider : Provider}
      {request : LoginRequest} {identity : Identity} {trace : LoginTrace} :
      l.handles[handle]? = some place → l.holders[place]? = some holder →
      provider.runLogin request = (.ok identity, trace) →
      Step l (.login provider (some handle) request) (l.withHolder place ⟨some identity⟩)
        [.loggedIn (some place) (.ok identity) trace]
  /-- A login fails and changes nothing. -/
  | rebuffed {l : Lobby} {handle place : Nat} {holder : Holder} {provider : Provider}
      {request : LoginRequest} {fault : Fault} {trace : LoginTrace} :
      l.handles[handle]? = some place → l.holders[place]? = some holder →
      provider.runLogin request = (.error fault, trace) →
      Step l (.login provider (some handle) request) l [.loggedIn (some place) (.error fault) trace]
  /-- Nobody is established by a provider that is not attached. -/
  | unattached {l : Lobby} {provider : Provider} {request : LoginRequest}
      {result : Except Fault Identity} {trace : LoginTrace} :
      provider.runLogin request = (result, trace) →
      Step l (.login provider none request) l [.loggedIn none result trace]

variable {l next last : Lobby} {m : Move} {moves : List Move} {new told : List Visit}
  {handle place : Nat} {holder : Holder}

/-- A visit through a handle, where it leads to a holder. -/
theorem through?_eq_some_iff {visit : Nat → Holder → Holder × Visit} :
    l.through? handle visit = some (next, new) ↔
      ∃ place holder, l.handles[handle]? = some place ∧ l.holders[place]? = some holder ∧
        next = l.withHolder place (visit place holder).1 ∧ new = [(visit place holder).2] := by
  unfold through?
  cases hplace : l.handles[handle]? with
  | none => simp
  | some place =>
      simp only [Option.map_eq_some_iff, Option.some.injEq, Prod.mk.injEq]
      constructor
      · rintro ⟨holder, hholder, rfl, rfl⟩
        exact ⟨place, holder, rfl, hholder, rfl, rfl⟩
      · rintro ⟨_, holder, rfl, hholder, rfl, rfl⟩
        exact ⟨holder, hholder, rfl, rfl⟩

/-- A visit through a handle that leads to a holder. -/
theorem through?_eq (hplace : l.handles[handle]? = some place)
    (hholder : l.holders[place]? = some holder) (visit : Nat → Holder → Holder × Visit) :
    l.through? handle visit =
      some (l.withHolder place (visit place holder).1, [(visit place holder).2]) :=
  through?_eq_some_iff.mpr ⟨place, holder, hplace, hholder, rfl, rfl⟩

/-- The lobby with the holder that is there already. -/
theorem withHolder_self (hholder : l.holders[place]? = some holder) :
    l.withHolder place holder = l := by
  obtain ⟨hlt, rfl⟩ := List.getElem?_eq_some_iff.mp hholder
  rw [withHolder, List.set_getElem_self]

/-- **One step**, as computed, is one of the steps. -/
theorem step_of_step? (h : l.step? m = some (next, new)) : Step l m next new := by
  cases m with
  | create =>
      obtain ⟨rfl, rfl⟩ := Prod.mk.inj (Option.some.inj h)
      exact .created
  | share handle =>
      obtain ⟨place, hplace, hr⟩ := Option.map_eq_some_iff.mp h
      obtain ⟨rfl, rfl⟩ := Prod.mk.inj hr
      exact .shared hplace
  | establish handle identity =>
      rw [step?] at h
      obtain ⟨place, holder, hplace, hholder, rfl, rfl⟩ := through?_eq_some_iff.mp h
      exact .established hplace hholder
  | clear handle =>
      rw [step?] at h
      obtain ⟨place, holder, hplace, hholder, rfl, rfl⟩ := through?_eq_some_iff.mp h
      exact .cleared hplace hholder
  | login provider attached request =>
      cases attached with
      | none =>
          obtain ⟨rfl, rfl⟩ := Prod.mk.inj (Option.some.inj h)
          exact .unattached rfl
      | some handle =>
          rw [step?] at h
          obtain ⟨place, holder, hplace, hholder, rfl, rfl⟩ := through?_eq_some_iff.mp h
          cases hlogin : provider.runLogin request with
          | mk result trace =>
              simp only [loginAt, Provider.loginInto, hlogin]
              cases result with
              | ok identity => exact .loggedIn hplace hholder hlogin
              | error fault =>
                  rw [withHolder_self hholder]
                  exact .rebuffed hplace hholder hlogin

/-- **Induction along a run**: what holds of a lobby after some moves and visits, and is kept by
every step, holds after the run. -/
theorem run?_induction {P : List Move → List Visit → Lobby → Prop}
    (hstep : ∀ {before past l m next new}, P before past l → Step l m next new →
      P (before ++ [m]) (past ++ new) next)
    (before : List Move) (past : List Visit) (hstart : P before past l)
    (hrun : l.run? moves = some (last, told)) :
    P (before ++ moves) (past ++ told) last :=
  Interleaving.run?_induction (fun h hm => hstep h (step_of_step? hm)) before past hstart hrun

/-! ### Handles -/

/-- A step leaves every handle leading to a holder. -/
theorem Step.sound (hstep : Step l m next new) (hsound : l.Sound) : next.Sound := by
  cases hstep with
  | created =>
      intro place hmem
      rw [List.length_append, List.length_singleton]
      obtain hmem | hmem := List.mem_append.mp hmem
      · have := hsound place hmem
        omega
      · obtain rfl := List.mem_singleton.mp hmem
        omega
  | shared hplace =>
      intro place hmem
      obtain hmem | hmem := List.mem_append.mp hmem
      · exact hsound place hmem
      · obtain rfl := List.mem_singleton.mp hmem
        exact hsound _ (List.mem_of_getElem? hplace)
  | rebuffed | unattached => exact hsound
  | _ =>
      intro place hmem
      rw [withHolder, List.length_set]
      exact hsound place hmem

/-- In every run, all handles lead to holders. -/
theorem sound_of_run? (hrun : ({} : Lobby).run? moves = some (l, told)) : l.Sound :=
  run?_induction (P := fun _ _ l => l.Sound) (fun h hstep => hstep.sound h) [] []
    (fun _ hmem => absurd hmem List.not_mem_nil) hrun

/-- Where a handle leads to a holder, it is its identity that is held. -/
theorem current_eq (hplace : l.handles[handle]? = some place)
    (hholder : l.holders[place]? = some holder) : l.current handle = holder.current := by
  rw [current, hplace, Option.bind_some, hholder, Option.bind_some]

/-- Another holder in a place is what all handles find that lead there. -/
theorem replaced_withHolder (hplace : place < l.holders.length) :
    Replaced l (l.withHolder place holder) place holder.current := by
  intro other
  cases hother : l.handles[other]? with
  | none => simp [current, withHolder, hother]
  | some reached =>
      by_cases hsame : reached = place
      · subst hsame
        rw [if_pos rfl]
        exact current_eq hother (List.getElem?_set_self hplace)
      · rw [if_neg fun h => hsame (Option.some.inj h)]
        simp only [current, withHolder, hother, Option.bind_some]
        rw [List.getElem?_set_ne (Ne.symm hsame)]

/-! ### Who is held -/

/-- The holders are **up to date**: each has the last change in its place, and where there is no
holder yet nothing has changed. -/
structure UpToDate (told : List Visit) (l : Lobby) : Prop where
  held : ∀ place holder, l.holders[place]? = some holder →
    holder.current = (changes place told).getLast?.join
  untouched : ∀ place, l.holders.length ≤ place → changes place told = []

/-- A visit that puts somebody or nobody in a place brings the holder there up to date. -/
theorem UpToDate.withHolder (h : UpToDate told l) {visit : Visit}
    (hplace : place < l.holders.length)
    (hvisit : ∀ other, visit.change? other =
      if place = other then some holder.current else none) :
    UpToDate (told ++ [visit]) (l.withHolder place holder) := by
  have hchanges (other : Nat) :
      changes other (told ++ [visit]) =
        changes other told ++ if place = other then [holder.current] else [] := by
    rw [changes_append, changes, changes, List.filterMap_cons, hvisit]
    by_cases hsame : place = other
    · rw [if_pos hsame, if_pos hsame]
      rfl
    · rw [if_neg hsame, if_neg hsame]
      rfl
  constructor
  · intro other found hfound
    rw [hchanges]
    by_cases hsame : place = other
    · subst hsame
      rw [Lobby.withHolder, List.getElem?_set_self hplace] at hfound
      rw [if_pos rfl, List.getLast?_concat, ← Option.some.inj hfound]
      rfl
    · rw [Lobby.withHolder, List.getElem?_set_ne hsame] at hfound
      rw [if_neg hsame, List.append_nil]
      exact h.held other found hfound
  · intro other hother
    rw [Lobby.withHolder, List.length_set] at hother
    rw [hchanges, if_neg (by omega), List.append_nil]
    exact h.untouched other hother

/-- Visits that change nothing leave the holders up to date. -/
theorem UpToDate.append (h : UpToDate told l) (hnew : ∀ place, changes place new = []) :
    UpToDate (told ++ new) l := by
  constructor
  · intro place holder hholder
    rw [changes_append, hnew, List.append_nil]
    exact h.held place holder hholder
  · intro place hplace
    rw [changes_append, hnew, List.append_nil]
    exact h.untouched place hplace

/-- A step leaves the holders up to date. -/
theorem Step.upToDate (hstep : Step l m next new) (h : UpToDate told l) :
    UpToDate (told ++ new) next := by
  cases hstep with
  | created =>
      rw [List.append_nil]
      constructor
      · intro place holder hholder
        obtain hlt | hle := Nat.lt_or_ge place l.holders.length
        · rw [List.getElem?_append_left hlt] at hholder
          exact h.held place holder hholder
        · -- The new holder stands in a place that nobody has visited.
          rw [List.getElem?_append_right hle] at hholder
          obtain rfl := List.mem_singleton.mp (List.mem_of_getElem? hholder)
          rw [h.untouched place hle]
          rfl
      · intro place hplace
        rw [List.length_append, List.length_singleton] at hplace
        exact h.untouched place (by omega)
  | shared =>
      rw [List.append_nil]
      exact ⟨h.held, h.untouched⟩
  | established _ hholder | cleared _ hholder | loggedIn _ hholder =>
      obtain ⟨hlt, -⟩ := List.getElem?_eq_some_iff.mp hholder
      exact h.withHolder hlt fun _ => rfl
  | rebuffed | unattached => exact h.append fun _ => rfl

/-- **Who is held is the last change**, through whichever handle it was made. -/
theorem current_of_run? (hrun : ({} : Lobby).run? moves = some (l, told))
    (hplace : l.handles[handle]? = some place) :
    l.current handle = (changes place told).getLast?.join := by
  have huptodate : UpToDate told l :=
    run?_induction (P := fun _ past l => UpToDate past l) (fun h hstep => hstep.upToDate h) [] []
      ⟨fun _ _ hholder => by simp at hholder, fun _ _ => rfl⟩ hrun
  have hlt := sound_of_run? hrun place (List.mem_of_getElem? hplace)
  have hholder := List.getElem?_eq_getElem hlt
  rw [current_eq hplace hholder]
  exact huptodate.held place _ hholder

/-- What a step puts in a place is an identity that was put in directly, or that of a login. -/
theorem Step.mem_of_put (hstep : Step l m next new) {identity : Identity}
    (hput : some identity ∈ changes place new) :
    (∃ handle, m = .establish handle identity) ∨
      ∃ provider handle request, m = .login provider (some handle) request ∧
        (provider.runLogin request).1 = .ok identity := by
  obtain ⟨visit, hvisit, hchange⟩ := List.mem_filterMap.mp hput
  cases hstep with
  | created | shared => cases hvisit
  | cleared | rebuffed | unattached =>
      obtain rfl := List.mem_singleton.mp hvisit
      simp [Visit.change?] at hchange
  | established =>
      obtain rfl := List.mem_singleton.mp hvisit
      obtain ⟨-, heq⟩ := Option.ite_none_right_eq_some.mp hchange
      obtain rfl := Option.some.inj (Option.some.inj heq)
      exact .inl ⟨_, rfl⟩
  | loggedIn _ _ hlogin =>
      obtain rfl := List.mem_singleton.mp hvisit
      obtain ⟨-, heq⟩ := Option.ite_none_right_eq_some.mp hchange
      obtain rfl := Option.some.inj (Option.some.inj heq)
      exact .inr ⟨_, _, _, rfl, by rw [hlogin]⟩

/-- **Who is held** was put in directly, or logged in. -/
theorem mem_of_current (hrun : ({} : Lobby).run? moves = some (l, told)) {identity : Identity}
    (hheld : l.current handle = some identity) :
    (∃ other, .establish other identity ∈ moves) ∨
      ∃ provider other request, .login provider (some other) request ∈ moves ∧
        (provider.runLogin request).1 = .ok identity := by
  have hput : ∀ place, some identity ∈ changes place told →
      (∃ other, .establish other identity ∈ moves) ∨
        ∃ provider other request, .login provider (some other) request ∈ moves ∧
          (provider.runLogin request).1 = .ok identity := by
    refine run?_induction (P := fun before past _ => ∀ place, some identity ∈ changes place past →
      (∃ other, .establish other identity ∈ before) ∨
        ∃ provider other request, .login provider (some other) request ∈ before ∧
          (provider.runLogin request).1 = .ok identity)
      (fun {before past l m next new} ih hstep place hmem => ?_) [] []
      (fun _ hmem => absurd hmem List.not_mem_nil) hrun
    rw [changes_append] at hmem
    rcases List.mem_append.mp hmem with hpast | hnew
    · rcases ih place hpast with ⟨other, hmem⟩ | ⟨provider, other, request, hmem, hresult⟩
      · exact .inl ⟨other, List.mem_append_left _ hmem⟩
      · exact .inr ⟨provider, other, request, List.mem_append_left _ hmem, hresult⟩
    · rcases hstep.mem_of_put hnew with ⟨other, rfl⟩ | ⟨provider, other, request, rfl, hresult⟩
      · exact .inl ⟨other, by simp⟩
      · exact .inr ⟨provider, other, request, by simp, hresult⟩
  cases hplace : l.handles[handle]? with
  | none => simp [current, hplace] at hheld
  | some place =>
      rw [current_of_run? hrun hplace] at hheld
      exact hput place (List.mem_of_getLast? (Option.join_eq_some_iff.mp hheld))

/-! ### What a login logs -/

/-- How often a log **tells of a success**, whoever it was. -/
def successes (events : List Log.Event) : Nat :=
  events.countP fun e =>
    e.level == .debug && e.target == "modelgate::security" && e.message == "login succeeded"

/-- To what the handler logs, a login that fails **adds nothing**. -/
theorem events_of_error {provider : Provider} {request : LoginRequest} {fault : Fault}
    {trace : LoginTrace} (hlogin : provider.runLogin request = (.error fault, trace)) :
    trace.events = trace.consultations.flatMap provider.overheard := by
  have hevents := (Provider.passage_of_runLogin provider request).events_eq
  rwa [hlogin, Provider.announced, List.append_nil] at hevents

/-- To what the handler logs, a login that succeeds **adds one event**: that it has, and who has
logged in. -/
theorem events_of_ok {provider : Provider} {request : LoginRequest} {identity : Identity}
    {trace : LoginTrace} (hlogin : provider.runLogin request = (.ok identity, trace)) :
    trace.events = trace.consultations.flatMap provider.overheard ++
        [⟨.debug, "modelgate::security", "login succeeded",
          [("user", .shown identity.principal.name), ("realm", .shown provider.realmName)]⟩] ∧
      successes trace.events =
        successes (trace.consultations.flatMap provider.overheard) + 1 := by
  have hevents := (Provider.passage_of_runLogin provider request).events_eq
  rw [hlogin, Provider.announced] at hevents
  refine ⟨hevents, ?_⟩
  rw [hevents, successes, List.countP_append]
  rfl

/-! ### What a login changes -/

/-- In a sound lobby every handle leads to a holder. -/
theorem Sound.leads (hsound : l.Sound) (hhandle : handle < l.handles.length) :
    ∃ place holder, l.handles[handle]? = some place ∧ l.holders[place]? = some holder := by
  have hplace := List.getElem?_eq_getElem hhandle
  have hlt := hsound _ (List.mem_of_getElem? hplace)
  exact ⟨_, _, hplace, List.getElem?_eq_getElem hlt⟩

/-- A login through a handle: it establishes its identity for all handles of the holder, or leaves
the lobby as it was. -/
theorem step?_login (hplace : l.handles[handle]? = some place)
    (hholder : l.holders[place]? = some holder) (provider : Provider) (request : LoginRequest) :
    ∃ next result trace,
      l.step? (.login provider (some handle) request) =
          some (next, [.loggedIn (some place) result trace]) ∧
        provider.runLogin request = (result, trace) ∧
        (∀ fault, result = .error fault → next = l) ∧
        (∀ identity, result = .ok identity → Replaced l next place (some identity)) := by
  have hstep : l.step? (.login provider (some handle) request) =
      some (l.withHolder place (loginAt provider request place holder).1,
        [(loginAt provider request place holder).2]) :=
    through?_eq hplace hholder (loginAt provider request)
  cases hlogin : provider.runLogin request with
  | mk result trace =>
      simp only [loginAt, Provider.loginInto, hlogin] at hstep
      cases result with
      | ok identity =>
          obtain ⟨hlt, -⟩ := List.getElem?_eq_some_iff.mp hholder
          refine ⟨_, _, _, hstep, rfl, fun _ h => (by cases h), fun _ hok => ?_⟩
          obtain rfl := Except.ok.inj hok
          exact replaced_withHolder hlt
      | error fault =>
          rw [withHolder_self hholder] at hstep
          exact ⟨_, _, _, hstep, rfl, fun _ _ => rfl, fun _ h => (by cases h)⟩

/-- **Establishment is atomic.** After every run, who is held where a handle leads is the last
change there. A login through a handle that fails leaves the lobby exactly as it was; one that
succeeds establishes the identity it returns, for all handles of that holder. A clear tells exactly
who was held. A login of a provider that is not attached changes nothing. To what the handler logs,
a login adds one event if it succeeds, which names the principal, and else nothing. -/
theorem establishment_of_run? (hrun : ({} : Lobby).run? moves = some (l, told)) :
    (∀ handle place, l.handles[handle]? = some place →
      l.current handle = (changes place told).getLast?.join) ∧
    (∀ handle, handle < l.handles.length → ∃ place, l.handles[handle]? = some place ∧
      (∀ provider request, ∃ next result trace,
        l.step? (.login provider (some handle) request) =
            some (next, [.loggedIn (some place) result trace]) ∧
          provider.runLogin request = (result, trace) ∧
          (∀ fault, result = .error fault → next = l) ∧
          (∀ identity, result = .ok identity → Replaced l next place (some identity))) ∧
      (∀ identity, ∃ next,
        l.step? (.establish handle identity) = some (next, [.established place identity]) ∧
          Replaced l next place (some identity)) ∧
      (∃ next, l.step? (.clear handle) = some (next, [.cleared place (l.current handle)]) ∧
        Replaced l next place none)) ∧
    (∀ provider request, ∃ result trace,
      l.step? (.login provider none request) = some (l, [.loggedIn none result trace]) ∧
        provider.runLogin request = (result, trace)) ∧
    (∀ (provider : Provider) request result trace, provider.runLogin request = (result, trace) →
      (∀ fault, result = .error fault →
        trace.events = trace.consultations.flatMap provider.overheard ∧
        successes trace.events = successes (trace.consultations.flatMap provider.overheard)) ∧
      (∀ identity, result = .ok identity →
        trace.events = trace.consultations.flatMap provider.overheard ++
          [⟨.debug, "modelgate::security", "login succeeded",
            [("user", .shown identity.principal.name), ("realm", .shown provider.realmName)]⟩] ∧
        successes trace.events =
          successes (trace.consultations.flatMap provider.overheard) + 1)) := by
  refine ⟨fun _ _ hplace => current_of_run? hrun hplace, fun handle hhandle => ?_,
    fun _ _ => ⟨_, _, rfl, rfl⟩, fun provider request result trace hlogin =>
      ⟨fun fault herror => ?_, fun identity hok => ?_⟩⟩
  · obtain ⟨place, holder, hplace, hholder⟩ := (sound_of_run? hrun).leads hhandle
    obtain ⟨hlt, -⟩ := List.getElem?_eq_some_iff.mp hholder
    refine ⟨place, hplace, step?_login hplace hholder, fun identity => ⟨_, ?_,
      replaced_withHolder hlt⟩, _, ?_, replaced_withHolder hlt⟩
    · rw [step?, through?_eq hplace hholder]
      rfl
    · rw [step?, through?_eq hplace hholder, current_eq hplace hholder]
      rfl
  · have hevents := events_of_error (herror ▸ hlogin)
    exact ⟨hevents, congrArg successes hevents⟩
  · exact events_of_ok (hok ▸ hlogin)

/-- Carol is put in directly through a shared handle, bob fails to log in with a password, carol is
cleared, and alice logs in with her certificate. -/
def visitingMoves : List Move :=
  [.create, .share 0, .establish 1 ⟨⟨"carol"⟩, [], {}⟩,
    .login (.clientCertificate "staff") (some 0) ⟨.passwordGuess "bob", none, none⟩, .clear 0,
    .login (.clientCertificate "staff") (some 1) ⟨.peerChain ⟨⟨"alice", "root"⟩, []⟩, none, none⟩]

/-- Bob presents his certificate, to act as somebody or as himself. -/
def bobRequest (authorizationId : Option String) : LoginRequest :=
  ⟨.peerChain ⟨⟨"bob", "root"⟩, []⟩, authorizationId, none⟩

/-- It is alice who is held, through either handle. She still is when bob fails to act as her, and
no longer when he logs in as himself, which is then all that is logged. -/
theorem established_visitingMoves :
    ∃ l told kept moved identity trace,
      ({} : Lobby).run? visitingMoves = some (l, told) ∧
        (l.current 0).map Identity.name = some "alice" ∧ l.current 1 = l.current 0 ∧
        (changes 0 told).length = 3 ∧
        l.current 0 = (changes 0 told).getLast?.join ∧
        (l.step? (.login (.clientCertificate "staff") (some 0) (bobRequest "alice"))).map Prod.fst =
          some kept ∧
        kept = l ∧
        l.step? (.login (.clientCertificate "staff") (some 0) (bobRequest none)) =
          some (moved, [.loggedIn (some 0) (.ok identity) trace]) ∧
        identity.name = "bob" ∧ moved.current 1 = some identity ∧
        trace.events = [⟨.debug, "modelgate::security", "login succeeded",
          [("user", .shown "bob"), ("realm", .shown "staff")]⟩] := by
  obtain ⟨l, told, hrun, hhandles, hheld, hshared, hlength⟩ : ∃ l told,
      ({} : Lobby).run? visitingMoves = some (l, told) ∧ l.handles = [0, 0] ∧
        (l.current 0).map Identity.name = some "alice" ∧ l.current 1 = l.current 0 ∧
        (changes 0 told).length = 3 :=
    ⟨_, _, rfl, rfl, rfl, rfl, rfl⟩
  obtain ⟨hchanges, hvisits, -, hlogs⟩ := establishment_of_run? hrun
  have hplace : l.handles[0]? = some 0 := by rw [hhandles]; rfl
  have hother : l.handles[1]? = some 0 := by rw [hhandles]; rfl
  obtain ⟨place, hreached, hlogin, -⟩ := hvisits 0 (by rw [hhandles]; decide)
  obtain rfl := Option.some.inj (hplace.symm.trans hreached)
  have hdenied : ((Provider.clientCertificate "staff").runLogin (bobRequest "alice")).1 =
      .error (.authenticationFailed "'bob' may not act as 'alice'") := rfl
  have hadmitted : ((Provider.clientCertificate "staff").runLogin (bobRequest none)).1 =
      .ok ((Provider.clientCertificate "staff").identity ⟨"bob"⟩ none) := rfl
  have hunheard : ((Provider.clientCertificate "staff").runLogin
      (bobRequest none)).2.consultations.flatMap
        (Provider.clientCertificate "staff").overheard = [] := rfl
  obtain ⟨kept, _, _, hkept, hfirst, hfailed, -⟩ :=
    hlogin (.clientCertificate "staff") (bobRequest "alice")
  obtain ⟨moved, result, trace, hmoved, hsecond, -, hsucceeded⟩ :=
    hlogin (.clientCertificate "staff") (bobRequest none)
  rw [hfirst] at hdenied
  rw [hsecond] at hadmitted hunheard
  obtain rfl : result = _ := hadmitted
  obtain ⟨hevents, -⟩ := (hlogs _ _ _ _ hsecond).2 _ rfl
  refine ⟨l, told, kept, moved, _, trace, hrun, hheld, hshared, hlength, hchanges 0 0 hplace,
    by rw [hkept]; rfl, hfailed _ hdenied, hmoved, rfl, ?_, ?_⟩
  · rw [hsucceeded _ rfl, if_pos hother]
  · rw [hevents, hunheard]
    rfl

end Lobby

end CallGate

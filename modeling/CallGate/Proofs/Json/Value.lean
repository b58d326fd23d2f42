import CallGate.Proofs.Json.Record
import Mathlib.Data.List.Perm.Basic

/-!
# Trees and their values

A tree has a value when all its leaves and keys mean something, and then the tree is the one
that says exactly that value (`Tree.json?_eq_some_iff`). Where the members of an object are
evaluated together they are evaluated one by one, so their values follow them into another
order, and members that are added bring their own values and change no other.

## Main results

* `Tree.json?_eq_some_iff` — the tree of a value.
* `Tree.memberValues?_perm`, `Tree.memberValues?_append` — members reordered and added.
* `Tree.memberValues?_named` — an array and the object of the same items.
-/

namespace CallGate

/-- A list is read when every element is. -/
theorem mapM_eq_some_iff {α β : Type} {f : α → Option β} {xs : List α} {ys : List β} :
    xs.mapM f = some ys ↔ List.Forall₂ (fun x y => f x = some y) xs ys := by
  induction xs generalizing ys with
  | nil => simp [eq_comm]
  | cons x xs ih =>
    simp only [List.mapM_cons, Option.bind_eq_bind, Option.bind_eq_some_iff, Option.pure_def,
      Option.some.injEq, ih, List.forall₂_cons_left_iff]
    constructor
    · rintro ⟨y, first, ys, others, rfl⟩
      exact ⟨y, ys, first, others, rfl⟩
    · rintro ⟨y, ys, first, others, rfl⟩
      exact ⟨y, first, ys, others, rfl⟩

namespace Tree

/-! ### The tree of a value -/

mutual

/-- The tree of a value has that value. -/
theorem json?_ofJson : ∀ j : Json, (ofJson j).json? = some j
  | .null | .bool _ | .number _ | .string _ => rfl
  | .array items => by simp [ofJson, json?, jsonItems?_ofItems items]
  | .object members => by simp [ofJson, json?, jsonMembers?_ofMembers members]

/-- The trees of items have those items. -/
theorem jsonItems?_ofItems : ∀ xs : List Json, jsonItems? (ofItems xs) = some xs
  | [] => rfl
  | x :: xs => by simp [ofItems, jsonItems?, json?_ofJson x, jsonItems?_ofItems xs]

/-- The trees of members have those members. -/
theorem jsonMembers?_ofMembers :
    ∀ xs : List (String × Json), jsonMembers? (ofMembers xs) = some xs
  | [] => rfl
  | (k, x) :: xs => by simp [ofMembers, jsonMembers?, json?_ofJson x, jsonMembers?_ofMembers xs]

end

mutual

/-- A tree that has a value is the tree of that value. -/
theorem eq_ofJson_of_json? : ∀ (t : Tree) {v : Json}, t.json? = some v → t = ofJson v
  | .null, v => by
    rintro ⟨⟩
    rfl
  | .bool b, v => by
    rintro ⟨⟩
    rfl
  | .number n, v => by
    intro h
    obtain ⟨m, rfl, rfl⟩ := Option.map_eq_some_iff.mp h
    rfl
  | .string s, v => by
    intro h
    obtain ⟨text, rfl, rfl⟩ := Option.map_eq_some_iff.mp h
    rfl
  | .array items, v => by
    intro h
    obtain ⟨values, read, rfl⟩ := Option.map_eq_some_iff.mp h
    rw [eq_ofItems_of_jsonItems? items read, ofJson]
  | .object members, v => by
    intro h
    obtain ⟨values, read, rfl⟩ := Option.map_eq_some_iff.mp h
    rw [eq_ofMembers_of_jsonMembers? members read, ofJson]

/-- Items that have values are the trees of these. -/
theorem eq_ofItems_of_jsonItems? : ∀ (ts : List Tree) {vs : List Json},
    jsonItems? ts = some vs → ts = ofItems vs
  | [], vs => by
    rintro ⟨⟩
    rfl
  | t :: ts, vs => by
    intro h
    rw [jsonItems?] at h
    split at h
    · rename_i v vs' first others
      obtain rfl := Option.some.inj h
      rw [eq_ofJson_of_json? t first, eq_ofItems_of_jsonItems? ts others, ofItems]
    · exact absurd h (by simp)

/-- Members that have values are the trees of these. -/
theorem eq_ofMembers_of_jsonMembers? : ∀ (ms : List (Option String × Tree))
    {vs : List (String × Json)}, jsonMembers? ms = some vs → ms = ofMembers vs
  | [], vs => by
    rintro ⟨⟩
    rfl
  | (k, t) :: ms, vs => by
    intro h
    obtain ⟨l, v, vs', rfl, first, others, rfl⟩ : ∃ l v vs', k = some l ∧ t.json? = some v ∧
        jsonMembers? ms = some vs' ∧ (l, v) :: vs' = vs := by
      cases k <;> cases first : t.json? <;> cases others : jsonMembers? ms <;>
        simp_all [jsonMembers?]
    rw [eq_ofJson_of_json? t first, eq_ofMembers_of_jsonMembers? ms others, ofMembers]

end

/-- The trees of items, one by one. -/
theorem ofItems_eq_map (items : List Json) : ofItems items = items.map ofJson := by
  induction items with
  | nil => rfl
  | cons v vs ih => rw [ofItems, ih, List.map_cons]

/-- A text is the tree of that text and of nothing else. -/
theorem ofJson_eq_string {v : Json} {s : String} :
    ofJson v = .string (some s) ↔ v = .string s := by
  cases v <;> simp [ofJson]

/-- A text is among the trees of members when it is among the members. -/
theorem mem_ofMembers_string {members : List (String × Json)} {name s : String} :
    (some name, .string (some s)) ∈ ofMembers members ↔ (name, .string s) ∈ members := by
  simp [ofMembers_eq_map, ofJson_eq_string]

/-! ### Values of members and items -/

/-- The **values of members**, if the object of them is within the limits. -/
def memberValues? (members : List (Option String × Tree)) : Option (List (String × Json)) :=
  if depthMembers members + 1 ≤ nestingLimit then jsonMembers? members else none

/-- The **values of items**, if the array of them is within the limits. -/
def itemValues? (items : List Tree) : Option (List Json) :=
  if depthItems items + 1 ≤ nestingLimit then jsonItems? items else none

/-- An object is the value of its members' values. -/
theorem value?_object (members : List (Option String × Tree)) :
    (Tree.object members).value? = (memberValues? members).map .object := by
  rw [value?, depth, json?, memberValues?]
  split <;> rfl

/-- An array is the value of its items' values. -/
theorem value?_array (items : List Tree) :
    (Tree.array items).value? = (itemValues? items).map .array := by
  rw [value?, depth, json?, itemValues?]
  split <;> rfl

/-- The value of a member: both its key and its tree have to mean something. -/
def memberValue? (m : Option String × Tree) : Option (String × Json) :=
  m.1.bind fun k => m.2.json?.map fun v => (k, v)

/-- Members are evaluated one by one. -/
theorem jsonMembers?_eq_mapM (members : List (Option String × Tree)) :
    jsonMembers? members = members.mapM memberValue? := by
  induction members with
  | nil => rfl
  | cons m ms ih =>
    obtain ⟨k, t⟩ := m
    rw [List.mapM_cons, ← ih, memberValue?]
    cases k <;> cases h : t.json? <;> cases h' : jsonMembers? ms <;> simp [jsonMembers?, h, h']

/-- The depth of members does not depend on their order. -/
theorem depthMembers_perm {members others : List (Option String × Tree)}
    (h : members.Perm others) : depthMembers members = depthMembers others := by
  induction h with
  | nil => rfl
  | cons m _ ih => simp only [depthMembers, ih]
  | swap m m' _ => simp only [depthMembers]; omega
  | trans _ _ ih ih' => exact ih.trans ih'

/-- The depth of two lists of members together is that of the deeper one. -/
theorem depthMembers_append (members others : List (Option String × Tree)) :
    depthMembers (members ++ others) = max (depthMembers members) (depthMembers others) := by
  induction members with
  | nil => simp [depthMembers]
  | cons m ms ih => simp only [List.cons_append, depthMembers, ih]; omega

/-- Members in another order are within the limits too, with the same values in that
order. -/
theorem memberValues?_perm {members others : List (Option String × Tree)}
    (h : members.Perm others) {values : List (String × Json)}
    (read : memberValues? members = some values) :
    ∃ values', memberValues? others = some values' ∧ values.Perm values' := by
  rw [memberValues?, jsonMembers?_eq_mapM] at read
  split at read
  · rename_i within
    obtain ⟨values', read', perm⟩ :=
      List.perm_comp_forall₂ h.symm (mapM_eq_some_iff.mp read)
    refine ⟨values', ?_, perm.symm⟩
    rw [memberValues?, ← depthMembers_perm h, if_pos within, jsonMembers?_eq_mapM]
    exact mapM_eq_some_iff.mpr read'
  · exact absurd read (by simp)

/-- More members have values when these have. -/
theorem memberValues?_append (members : List (Option String × Tree))
    {others : List (Option String × Tree)} {more : List (String × Json)}
    (h : memberValues? others = some more) :
    memberValues? (members ++ others) = (memberValues? members).map (· ++ more) := by
  rw [memberValues?, jsonMembers?_eq_mapM] at h
  split at h
  · rename_i within
    have both : depthMembers (members ++ others) + 1 ≤ nestingLimit ↔
        depthMembers members + 1 ≤ nestingLimit := by
      rw [depthMembers_append]
      omega
    simp only [memberValues?, both, jsonMembers?_eq_mapM, List.mapM_append, h]
    split
    · cases members.mapM memberValue? <;> rfl
    · rfl
  · exact absurd h (by simp)

/-- Members that have values are the trees of these. -/
theorem eq_ofMembers_of_memberValues? {members : List (Option String × Tree)}
    {values : List (String × Json)} (h : memberValues? members = some values) :
    members = ofMembers values := by
  rw [memberValues?] at h
  split at h
  · exact eq_ofMembers_of_jsonMembers? members h
  · exact absurd h (by simp)

/-- Items that have values are the trees of these. -/
theorem eq_map_of_itemValues? {items : List Tree} {values : List Json}
    (h : itemValues? items = some values) : items = values.map ofJson := by
  rw [itemValues?] at h
  split at h
  · rw [eq_ofItems_of_jsonItems? items h, ofItems_eq_map]
  · exact absurd h (by simp)

/-- Under names, values are as deep as in an array. -/
theorem depthMembers_named (names : List String) (items : List Tree)
    (h : items.length ≤ names.length) : depthMembers (named names items) = depthItems items := by
  induction items generalizing names with
  | nil => simp [named, depthMembers, depthItems]
  | cons t ts ih =>
    obtain - | ⟨k, ks⟩ := names
    · exact absurd h (by simp)
    · have rest := ih ks (by simpa using h)
      simp only [named, List.map_cons, List.zip_cons_cons, depthMembers, depthItems] at rest ⊢
      rw [rest]

/-- Under names, values are what they are in an array. -/
theorem jsonMembers?_named (names : List String) (items : List Tree)
    (h : items.length ≤ names.length) :
    jsonMembers? (named names items) = (jsonItems? items).map (names.zip ·) := by
  induction items generalizing names with
  | nil => simp [named, jsonMembers?, jsonItems?]
  | cons t ts ih =>
    obtain - | ⟨k, ks⟩ := names
    · exact absurd h (by simp)
    · have rest := ih ks (by simpa using h)
      simp only [named, List.map_cons, List.zip_cons_cons, jsonMembers?, jsonItems?] at rest ⊢
      rw [rest]
      cases t.json? <;> cases jsonItems? ts <;> rfl

/-- **Named values** within the limits are the values of the array under their names. -/
theorem memberValues?_named (names : List String) (items : List Tree)
    (h : items.length ≤ names.length) :
    memberValues? (named names items) = (itemValues? items).map (names.zip ·) := by
  rw [memberValues?, itemValues?, depthMembers_named names items h,
    jsonMembers?_named names items h]
  split <;> rfl

end Tree

end CallGate

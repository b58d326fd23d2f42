import CallGate.Json.Record
import Mathlib.Data.List.Nodup

/-!
# How the fields of a record may be laid out

`Tree.fields?` looks each field up among the members, so what it finds depends only on the
members that carry the name of a field: their order and the other members are out of its
sight, and a name carried twice is refused. By position the same fields are found: an array
of fields says what the object says whose members are these fields under their names.

All of it is said of one field first and holds of a record because a record is read one
field at a time.

## Main results

* `Tree.fields?_perm`, `Tree.fields?_append` — order and members of other names.
* `Tree.fields?_of_twice` — a field given twice.
* `Tree.fields?_named` — the fields of an object of named values.
* `Tree.fields?_array` — an array and the object of the same values.
* `Tree.fields?_ofJson` — the fields of a written record.
-/

namespace CallGate

/-! ### Lists -/

/-- Lists that are permutations of each other are equal, unless both are longer than one. -/
theorem perm_cases {α : Type} {xs ys : List α} (h : xs.Perm ys) :
    xs = ys ∨ 2 ≤ xs.length ∧ 2 ≤ ys.length := by
  rcases xs with - | ⟨x, - | ⟨x', xs⟩⟩
  · exact .inl h.nil_eq
  · exact .inl (List.perm_singleton.mp h.symm).symm
  · have length := h.length_eq
    simp only [List.length_cons] at length ⊢
    exact .inr (by omega)

/-- Readings that agree on every element agree on the list. -/
theorem mapM_congr {α β : Type} {f g : α → Option β} {xs : List α}
    (h : ∀ x ∈ xs, f x = g x) : xs.mapM f = xs.mapM g := by
  induction xs with
  | nil => rfl
  | cons x xs ih =>
    rw [List.mapM_cons, List.mapM_cons, h x List.mem_cons_self,
      ih fun y hy => h y (List.mem_cons_of_mem x hy)]

/-- One reading that fails fails the list. -/
theorem mapM_eq_none {α β : Type} {f : α → Option β} {xs : List α} {x : α} (mem : x ∈ xs)
    (h : f x = none) : xs.mapM f = none := by
  induction xs with
  | nil => exact absurd mem List.not_mem_nil
  | cons y ys ih =>
    rw [List.mapM_cons]
    rcases List.mem_cons.mp mem with rfl | mem
    · simp [h]
    · cases f y <;> simp [ih mem]

/-! ### Members of one key -/

section Keys

variable {κ ν : Type} [BEq κ] [LawfulBEq κ] {members others : List (κ × ν)} {key : κ}

/-- No member has a key that is none of theirs. -/
theorem filter_key_eq_nil (h : ∀ m ∈ members, m.1 ≠ key) :
    members.filter (fun m => m.1 == key) = [] :=
  List.filter_eq_nil_iff.mpr fun m mem => by simpa using h m mem

/-- A member of another key does not matter. -/
theorem filter_key_cons_of_ne {k : κ} (h : k ≠ key) (v : ν) (members : List (κ × ν)) :
    ((k, v) :: members).filter (fun m => m.1 == key) =
      members.filter (fun m => m.1 == key) :=
  List.filter_cons_of_neg (by simpa using h)

/-- Members of other keys do not matter. -/
theorem filter_key_append (h : ∀ m ∈ others, m.1 ≠ key) :
    (members ++ others).filter (fun m => m.1 == key) =
      members.filter (fun m => m.1 == key) := by
  rw [List.filter_append, filter_key_eq_nil h, List.append_nil]

/-- A member is the only one of its key when no other has it. -/
theorem filter_key_cons_self (v : ν) (h : ∀ m ∈ members, m.1 ≠ key) :
    ((key, v) :: members).filter (fun m => m.1 == key) = [(key, v)] := by
  rw [List.filter_cons_of_pos (by simp), filter_key_eq_nil h]

end Keys

namespace Tree

variable {members others : List (Option String × Tree)} {name : String} {names : List String}

/-! ### One field -/

/-- A field does not depend on the order of the members. -/
theorem field?_perm (h : members.Perm others) (name : String) :
    field? members name = field? others name := by
  rw [field?, field?]
  rcases perm_cases (h.filter fun m => m.1 == some name) with same | ⟨two, two'⟩
  · rw [same]
  · split <;> split <;> simp_all

/-- A member of another name does not matter to a field. -/
theorem field?_cons_of_ne {k : Option String} (h : k ≠ some name) (t : Tree)
    (members : List (Option String × Tree)) :
    field? ((k, t) :: members) name = field? members name := by
  rw [field?, filter_key_cons_of_ne h, field?]

/-- Members of other names do not matter to a field. -/
theorem field?_append (h : ∀ m ∈ others, m.1 ≠ some name) :
    field? (members ++ others) name = field? members name := by
  rw [field?, filter_key_append h, field?]

/-- The only member of a name is the field. -/
theorem field?_cons_self (t : Tree) (h : ∀ m ∈ members, m.1 ≠ some name) :
    field? ((some name, t) :: members) name = some (some t) := by
  rw [field?, filter_key_cons_self t h]

/-- A name carried **twice** is refused. -/
theorem field?_of_twice (h : 2 ≤ members.countP fun m => m.1 == some name) :
    field? members name = none := by
  rw [List.countP_eq_length_filter] at h
  rw [field?]
  split <;> simp_all

/-! ### The fields of an object -/

/-- Fields do not depend on the **order** of the members. -/
theorem fields?_perm (h : members.Perm others) (names : List String) :
    fields? names (.object members) = fields? names (.object others) := by
  rw [fields?, fields?, h.all_eq, mapM_congr fun name _ => field?_perm h name]

/-- Members that are **no fields** do not matter. -/
theorem fields?_append (h : ∀ m ∈ others, ∃ k, m.1 = some k ∧ k ∉ names) :
    fields? names (.object (members ++ others)) = fields? names (.object members) := by
  have named : others.all (·.1.isSome) = true := by
    rw [List.all_eq_true]
    intro m mem
    obtain ⟨k, key, -⟩ := h m mem
    rw [key, Option.isSome_some]
  have same : ∀ name ∈ names, field? (members ++ others) name = field? members name := by
    intro name field
    refine field?_append fun m mem eq => ?_
    obtain ⟨k, key, other⟩ := h m mem
    exact other (Option.some.inj (key.symm.trans eq) ▸ field)
  rw [fields?, fields?, List.all_append, named, Bool.and_true, mapM_congr same]

/-- A field given **twice** is refused. -/
theorem fields?_of_twice (field : name ∈ names)
    (h : 2 ≤ members.countP fun m => m.1 == some name) :
    fields? names (.object members) = none := by
  rw [fields?, mapM_eq_none field (field?_of_twice h), ite_self]

/-! ### The fields of an array -/

/-- Values **under their names**. -/
def named (names : List String) (items : List Tree) : List (Option String × Tree) :=
  (names.map some).zip items

/-- Every member of such a list carries one of the names. -/
theorem exists_of_mem_named {m : Option String × Tree} {items : List Tree}
    (h : m ∈ named names items) : ∃ k ∈ names, m.1 = some k := by
  obtain ⟨k, mem, key⟩ := List.mem_map.mp (List.of_mem_zip (b := m.2) h).1
  exact ⟨k, mem, key.symm⟩

/-- Looked up by name, the values come out in the order of the names, and nothing for the
names that are left. -/
theorem mapM_field?_named (nodup : names.Nodup) (items : List Tree)
    (h : items.length ≤ names.length) :
    names.mapM (field? (named names items)) =
      some (items.map some ++ List.replicate (names.length - items.length) none) := by
  induction names generalizing items with
  | nil =>
    have empty : items = [] := List.length_eq_zero_iff.mp (by simpa using h)
    rw [empty]
    rfl
  | cons k ks ih =>
    obtain ⟨fresh, nodup⟩ := List.nodup_cons.mp nodup
    cases items with
    | nil =>
      have rest := ih nodup [] (by simp)
      have nothing : ∀ names : List String, named names [] = [] := by simp [named]
      rw [nothing] at rest ⊢
      rw [List.mapM_cons, rest]
      rfl
    | cons t ts =>
      have others : ∀ m ∈ named ks ts, m.1 ≠ some k := by
        intro m mem eq
        obtain ⟨l, field, key⟩ := exists_of_mem_named mem
        exact fresh (Option.some.inj (eq.symm.trans key) ▸ field)
      have head : field? (named (k :: ks) (t :: ts)) k = some (some t) :=
        field?_cons_self t others
      have rest : ks.mapM (field? (named (k :: ks) (t :: ts))) =
          ks.mapM (field? (named ks ts)) := by
        refine mapM_congr fun l field => field?_cons_of_ne ?_ t _
        rintro ⟨⟩
        exact fresh field
      rw [List.mapM_cons, head, rest, ih nodup ts (by simpa using h)]
      simp

/-- The fields of an object of **named values** are these values. -/
theorem fields?_named (nodup : names.Nodup) (items : List Tree)
    (h : items.length ≤ names.length) :
    fields? names (.object (named names items)) =
      some (items.map some ++ List.replicate (names.length - items.length) none) := by
  have all_named : (named names items).all (·.1.isSome) = true := by
    rw [List.all_eq_true]
    intro m mem
    obtain ⟨k, -, key⟩ := exists_of_mem_named mem
    rw [key, Option.isSome_some]
  rw [fields?, if_pos all_named, mapM_field?_named nodup items h]

/-- An **array** has the fields of the object of its items under the names of the fields. -/
theorem fields?_array (nodup : names.Nodup) (items : List Tree)
    (h : items.length ≤ names.length) :
    fields? names (.array items) = fields? names (.object (named names items)) := by
  rw [fields?_named nodup items h, fields?, if_pos h]

/-! ### The fields of a value -/

/-- The trees of members, one by one. -/
theorem ofMembers_eq_map (members : List (String × Json)) :
    ofMembers members = members.map fun m => (some m.1, ofJson m.2) := by
  induction members with
  | nil => rfl
  | cons m ms ih => rw [ofMembers, ih, List.map_cons]

/-- The trees of members are the trees of their values, under their names. -/
theorem ofMembers_eq_named (members : List (String × Json)) :
    ofMembers members = named (members.map (·.1)) (members.map fun m => ofJson m.2) := by
  rw [ofMembers_eq_map, named, List.map_map, List.zip_map']
  rfl

/-- The fields of a written record are the trees of its values. -/
theorem fields?_ofJson (members : List (String × Json))
    (nodup : (members.map (·.1)).Nodup) :
    fields? (members.map (·.1)) (ofJson (.object members)) =
      some (members.map fun m => some (ofJson m.2)) := by
  rw [ofJson, ofMembers_eq_named, fields?_named nodup _ (by simp)]
  simp

end Tree

end CallGate

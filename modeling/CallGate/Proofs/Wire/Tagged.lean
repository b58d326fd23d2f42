import CallGate.Fault
import CallGate.Proofs.Json.Value

/-!
# How a fault may be laid out

A fault is read from an object by its tag: the `type` says which names are fields. All
members are evaluated before any is chosen, so here, unlike in a record, a member that is no
field has to be a value within the limits too. Once the members are values (`memberValues?`)
the same holds as for records: each name is looked up on its own.

## Main results

* `Fault.ofTree?_object`, `Fault.ofTree?_array` — what is read, in terms of the values.
* `Fault.ofMembers?_perm`, `Fault.ofMembers?_append`, `Fault.ofMembers?_of_twice` — order,
  other members, and names given twice.
* `Fault.ofMembers?_named` — the object of named values reads like the list of them.
* `Fault.ofFields?_eq_some_iff` — which texts belong to which fault.
-/

namespace CallGate

namespace Fault

variable {members others : List (String × Json)} {name : String}

/-! ### One name -/

/-- A text does not depend on the order of the members. -/
theorem uniqueText?_perm (h : members.Perm others) (name : String) :
    uniqueText? members name = uniqueText? others name := by
  rw [uniqueText?, uniqueText?]
  rcases perm_cases (h.filter fun m => m.1 == name) with same | ⟨two, two'⟩
  · rw [same]
  · split <;> split <;> simp_all

/-- A member of another name does not matter to a text. -/
theorem uniqueText?_cons_of_ne {k : String} (h : k ≠ name) (v : Json)
    (members : List (String × Json)) :
    uniqueText? ((k, v) :: members) name = uniqueText? members name := by
  rw [uniqueText?, filter_key_cons_of_ne h, uniqueText?]

/-- Members of other names do not matter to a text. -/
theorem uniqueText?_append (h : ∀ m ∈ others, m.1 ≠ name) :
    uniqueText? (members ++ others) name = uniqueText? members name := by
  rw [uniqueText?, filter_key_append h, uniqueText?]

/-- The only member of a name gives the text. -/
theorem uniqueText?_cons_self (v : Json) (h : ∀ m ∈ members, m.1 ≠ name) :
    uniqueText? ((name, v) :: members) name = v.text? := by
  rw [uniqueText?, filter_key_cons_self v h]
  cases v <;> rfl

/-- A name carried **twice** is refused. -/
theorem uniqueText?_of_twice (h : 2 ≤ members.countP fun m => m.1 == name) :
    uniqueText? members name = none := by
  rw [List.countP_eq_length_filter] at h
  rw [uniqueText?]
  split <;> simp_all

/-- A text is that of a member, and of every member of the name. -/
theorem uniqueText?_eq_some {s : String} (h : uniqueText? members name = some s) :
    (name, .string s) ∈ members ∧ ∀ v, (name, v) ∈ members → v = .string s := by
  rw [uniqueText?] at h
  split at h
  · rename_i k text found
    obtain rfl : text = s := Option.some.inj h
    have only : ∀ m, m ∈ members ∧ m.1 = name ↔ m = (k, .string text) := by
      intro m
      have mem_found : m ∈ members.filter (fun m => m.1 == name) ↔ m ∈ [(k, .string text)] := by
        rw [found]
      simpa using mem_found
    obtain ⟨mem, rfl⟩ := (only (k, .string text)).mpr rfl
    exact ⟨mem, fun v mem' => congrArg Prod.snd ((only (k, v)).mp ⟨mem', rfl⟩)⟩
  · exact absurd h (by simp)

/-- Looked up by name, the texts come out in the order of the names. -/
theorem mapM_uniqueText?_zip {names : List String} (nodup : names.Nodup) (values : List Json)
    (h : values.length = names.length) :
    names.mapM (uniqueText? (names.zip values)) = values.mapM Json.text? := by
  induction names generalizing values with
  | nil =>
    have empty : values = [] := List.length_eq_zero_iff.mp (by simpa using h)
    rw [empty]
    rfl
  | cons k ks ih =>
    obtain ⟨fresh, nodup⟩ := List.nodup_cons.mp nodup
    obtain - | ⟨v, vs⟩ := values
    · exact absurd h (by simp)
    · have others : ∀ m ∈ ks.zip vs, m.1 ≠ k := by
        rintro m mem rfl
        exact fresh (List.of_mem_zip (b := m.2) mem).1
      have rest : ks.mapM (uniqueText? ((k :: ks).zip (v :: vs))) =
          ks.mapM (uniqueText? (ks.zip vs)) := by
        refine mapM_congr fun l field => uniqueText?_cons_of_ne ?_ v _
        rintro rfl
        exact fresh field
      rw [List.mapM_cons, rest, ih nodup vs (by simpa using h), List.mapM_cons,
        List.zip_cons_cons, uniqueText?_cons_self v others]

/-! ### Tags and fields -/

/-- The names of a tagged object are different from each other: the fields and `type`. -/
theorem fieldNames?_nodup {tag : String} {names : List String}
    (h : fieldNames? tag = some names) : ("type" :: names).Nodup := by
  rw [fieldNames?.eq_def] at h
  split at h <;> cases h <;> decide

/-- The fields of a fault are those of its tag. -/
theorem fieldNames?_tag (f : Fault) : fieldNames? f.tag = some (f.fields.map (·.1)) := by
  cases f <;> rfl

/-- The **texts of a tag** belong to one fault: the one of that tag with these fields. -/
theorem ofFields?_eq_some_iff {tag : String} {texts : List String} {f : Fault} :
    ofFields? tag texts = some f ↔ tag = f.tag ∧ texts = f.fields.map (·.2) := by
  constructor
  · intro h
    rw [ofFields?.eq_def] at h
    split at h <;> cases h <;> exact ⟨rfl, rfl⟩
  · rintro ⟨rfl, rfl⟩
    cases f <;> rfl

/-! ### Members -/

/-- The fault of an object's **members**. -/
def ofMembers? (members : List (String × Json)) : Option Fault := do
  let tag ← uniqueText? members "type"
  let names ← fieldNames? tag
  ofFields? tag (← names.mapM (uniqueText? members))

/-- An object is read from the values of its members. -/
theorem ofTree?_object (members : List (Option String × Tree)) :
    ofTree? (.object members) = (Tree.memberValues? members).bind ofMembers? := by
  rw [ofTree?, Tree.value?_object]
  cases Tree.memberValues? members <;> rfl

/-- The fault of an array's **items**: a tag, then the texts of its fields. -/
def ofItems? : List Json → Option Fault
  | .string tag :: items => (items.mapM Json.text?).bind (ofFields? tag)
  | _ => none

/-- An array is read from the values of its items. -/
theorem ofTree?_array (items : List Tree) :
    ofTree? (.array items) = (Tree.itemValues? items).bind ofItems? := by
  rw [ofTree?, Tree.value?_array]
  cases Tree.itemValues? items with
  | none => rfl
  | some values => rcases values with - | ⟨- | - | - | - | - | -, values⟩ <;> rfl

/-- Items of a fault are its tag and as many others as it has fields. -/
theorem ofItems?_eq_some {values : List Json} {f : Fault} (h : ofItems? values = some f) :
    ∃ rest, values = .string f.tag :: rest ∧ rest.length = f.fields.length := by
  rw [ofItems?.eq_def] at h
  split at h
  · rename_i tag rest
    obtain ⟨texts, read, fields⟩ := Option.bind_eq_some_iff.mp h
    obtain ⟨rfl, rfl⟩ := ofFields?_eq_some_iff.mp fields
    exact ⟨rest, rfl, by simpa using (mapM_eq_some_iff.mp read).length_eq⟩
  · exact absurd h (by simp)

/-- A fault does not depend on the **order** of the members. -/
theorem ofMembers?_perm (h : members.Perm others) : ofMembers? members = ofMembers? others := by
  have same : uniqueText? members = uniqueText? others := funext (uniqueText?_perm h)
  rw [ofMembers?, ofMembers?, same]

/-- A name **counts** among the members of an object when it is that of the tag or of a field
that the tag calls for. -/
def Counts (members : List (Option String × Tree)) (name : String) : Prop :=
  name = "type" ∨ ∃ tag names, (some "type", .string (some tag)) ∈ members ∧
    fieldNames? tag = some names ∧ name ∈ names

/-- Members whose names **do not count** do not matter. -/
theorem ofMembers?_append (h : ∀ m ∈ others, ¬ Counts (Tree.ofMembers members) m.1) :
    ofMembers? (members ++ others) = ofMembers? members := by
  have tag_same : uniqueText? (members ++ others) "type" = uniqueText? members "type" :=
    uniqueText?_append fun m mem eq => h m mem (.inl eq)
  rw [ofMembers?, ofMembers?, tag_same]
  cases tagged : uniqueText? members "type" with
  | none => rfl
  | some tag =>
    cases fields : fieldNames? tag with
    | none => simp [fields]
    | some names =>
      have same : names.mapM (uniqueText? (members ++ others)) =
          names.mapM (uniqueText? members) := by
        have given := Tree.mem_ofMembers_string.mpr (uniqueText?_eq_some tagged).1
        refine mapM_congr fun name field => uniqueText?_append fun m mem eq => h m mem ?_
        exact .inr ⟨tag, names, given, fields, eq ▸ field⟩
      simp [fields, same]

/-- A name that counts is refused when it is carried **twice**. -/
theorem ofMembers?_of_twice (counts : Counts (Tree.ofMembers members) name)
    (h : 2 ≤ members.countP fun m => m.1 == name) : ofMembers? members = none := by
  rw [ofMembers?]
  cases tagged : uniqueText? members "type" with
  | none => rfl
  | some tag =>
    rcases counts with rfl | ⟨tag', names, mem, fields, field⟩
    · rw [uniqueText?_of_twice h] at tagged
      exact absurd tagged (by simp)
    · have given := Tree.mem_ofMembers_string.mp mem
      obtain rfl : tag' = tag := by simpa using (uniqueText?_eq_some tagged).2 _ given
      simp [fields, mapM_eq_none field (uniqueText?_of_twice h)]

/-- A tag and the **values of its fields** under their names are read like the list of
them. -/
theorem ofMembers?_named {tag : String} {names : List String} {values : List Json}
    (fields : fieldNames? tag = some names) (h : values.length = names.length) :
    ofMembers? (("type" :: names).zip (.string tag :: values)) =
      ofItems? (.string tag :: values) := by
  obtain ⟨fresh, nodup⟩ := List.nodup_cons.mp (fieldNames?_nodup fields)
  have others : ∀ m ∈ names.zip values, m.1 ≠ "type" := by
    rintro m mem eq
    exact fresh (eq ▸ (List.of_mem_zip (b := m.2) mem).1)
  have tagged : uniqueText? (("type" :: names).zip (.string tag :: values)) "type" = some tag :=
    uniqueText?_cons_self (.string tag) others
  have rest : names.mapM (uniqueText? (("type" :: names).zip (.string tag :: values))) =
      values.mapM Json.text? := by
    rw [← mapM_uniqueText?_zip nodup values h]
    refine mapM_congr fun name field => uniqueText?_cons_of_ne ?_ _ _
    rintro rfl
    exact fresh field
  rw [ofMembers?, tagged]
  simp only [Option.bind_eq_bind, Option.bind_some, fields, rest, ofItems?]

end Fault

end CallGate

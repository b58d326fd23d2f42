import CallGate.Proofs.Wire.Tagged
import CallGate.Wire

/-!
# Decoding depends on the fields alone

What a text decodes to is settled by the fields it gives, not by how it gives them. For a
record (`Form.FieldsOnly`) the members of the object may be reordered, members that are no
fields may join them, and the array of the first fields says what their object says; a field
given twice is refused. For a fault (`Form.TaggedFieldsOnly`) the tag is one more name that
may stand anywhere and must not be given twice, and it is the tag that decides which names
are fields; the members that are no fields have to be values within the limits of the
reader, and an array has to hold the tag and all fields.

Both are stated of the tree of a text, so of every object and every array that a text can
hold, whether it decodes or not.

## Main results

* `Form.FieldsOnly.of_fields` — a record that is read through `Tree.fields?`.
* `Fault.fieldsOnly` — faults.
* `wire_fieldsOnly` — all records, and faults.
-/

namespace CallGate

/-! ### Records -/

/-- A form decodes by **the fields alone**, which are the named ones in that order. -/
structure Form.FieldsOnly {α : Type} (f : Form α) (names : List String) : Prop where
  /-- These are the fields of what is written. -/
  written : ∀ a, ∃ members, f.write a = .object members ∧ members.map (·.1) = names
  /-- Members may be reordered. -/
  reorder : ∀ members others : List (Option String × Tree), members.Perm others →
    f.read? (.object members) = f.read? (.object others)
  /-- Members that are no fields may join. -/
  extend : ∀ members others : List (Option String × Tree),
    (∀ m ∈ others, ∃ k, m.1 = some k ∧ k ∉ names) →
    f.read? (.object (members ++ others)) = f.read? (.object members)
  /-- A field given twice is refused. -/
  twice : ∀ (members : List (Option String × Tree)), ∀ name ∈ names,
    2 ≤ members.countP (fun m => m.1 == some name) → f.read? (.object members) = none
  /-- An array is read like the object of its items under the names of the first fields. -/
  positional : ∀ items : List Tree, items.length ≤ names.length →
    f.read? (.array items) = f.read? (.object (Tree.named names items))

/-- A form that is read **through the fields** decodes by the fields alone. -/
theorem Form.FieldsOnly.of_fields {α : Type} {f : Form α} {names : List String}
    (nodup : names.Nodup)
    (written : ∀ a, ∃ members, f.write a = .object members ∧ members.map (·.1) = names)
    (same : ∀ t u : Tree, t.fields? names = u.fields? names → f.read? t = f.read? u)
    (null : f.read? .null = none) : f.FieldsOnly names where
  written := written
  reorder _ _ perm := same _ _ (Tree.fields?_perm perm names)
  extend _ _ others := same _ _ (Tree.fields?_append others)
  -- Null gives no fields either, so what gives none is refused like null.
  twice _ _ field two := (same _ .null (Tree.fields?_of_twice field two)).trans null
  positional items fits := same _ _ (Tree.fields?_array nodup items fits)

/-- Configurations decode by their settings alone. -/
theorem Config.fieldsOnly : Config.form.FieldsOnly Config.fieldNames :=
  .of_fields (by decide) (fun _ => ⟨_, rfl, rfl⟩)
    (fun _ _ h => by simp only [form, ofTree?, h]) rfl

/-- Principals decode by their name alone. -/
theorem Principal.fieldsOnly : Principal.form.FieldsOnly ["name"] :=
  .of_fields (by decide) (fun _ => ⟨_, rfl, rfl⟩)
    (fun _ _ h => by simp only [form, ofTree?, h]) rfl

/-- Attributes decode by their fields alone. -/
theorem Attributes.fieldsOnly : Attributes.form.FieldsOnly ["realm", "mechanism", "ip"] :=
  .of_fields (by decide) (fun _ => ⟨_, rfl, rfl⟩)
    (fun _ _ h => by simp only [form, ofTree?, h]) rfl

/-- Identities decode by their fields alone. -/
theorem Identity.fieldsOnly : Identity.form.FieldsOnly ["principal", "roles", "attrs"] :=
  .of_fields (by decide) (fun _ => ⟨_, rfl, rfl⟩)
    (fun _ _ h => by simp only [form, ofTree?, h]) rfl

/-- Certificates decode by their fields alone. -/
theorem Certificate.fieldsOnly : Certificate.form.FieldsOnly ["subject", "issuer"] :=
  .of_fields (by decide) (fun _ => ⟨_, rfl, rfl⟩)
    (fun _ _ h => by simp only [form, ofTree?, h]) rfl

/-! ### Faults -/

/-- A form of faults decodes by **the tag and its fields alone**. -/
structure Form.TaggedFieldsOnly (f : Form Fault) : Prop where
  /-- What is written is the tag and the fields that it calls for. -/
  written : ∀ a, ∃ tag members, f.write a = .object (("type", .string tag) :: members) ∧
    Fault.fieldNames? tag = some (members.map (·.1))
  /-- Members may be reordered, the tag among them. -/
  reorder : ∀ members others : List (Option String × Tree), members.Perm others →
    f.read? (.object members) = f.read? (.object others)
  /-- Members that are neither the tag nor a field it calls for may join, when they are values
  within the limits. -/
  extend : ∀ members others : List (Option String × Tree),
    (Tree.object others).value?.isSome →
    (∀ m ∈ others, ∀ k, m.1 = some k → ¬ Fault.Counts members k) →
    f.read? (.object (members ++ others)) = f.read? (.object members)
  /-- The tag, or a field it calls for, is refused when given twice. -/
  twice : ∀ (members : List (Option String × Tree)) (k : String), Fault.Counts members k →
    2 ≤ members.countP (fun m => m.1 == some k) → f.read? (.object members) = none
  /-- An array of a tag and all its fields is read like the object of them. -/
  positional : ∀ (tag : String) (names : List String) (items : List Tree),
    Fault.fieldNames? tag = some names → items.length = names.length →
    f.read? (.array (.string (some tag) :: items)) =
      f.read? (.object (Tree.named ("type" :: names) (.string (some tag) :: items)))
  /-- Every other array is refused. -/
  otherwise : ∀ items : List Tree,
    (∀ tag names rest, items = .string (some tag) :: rest → Fault.fieldNames? tag = some names →
      rest.length ≠ names.length) →
    f.read? (.array items) = none

namespace Fault

variable {members others : List (Option String × Tree)}

/-- Reordered members are the members of the same fault. -/
theorem ofTree?_object_perm (h : members.Perm others) :
    ofTree? (.object members) = ofTree? (.object others) := by
  rw [ofTree?_object, ofTree?_object]
  cases values : Tree.memberValues? members with
  | some vs =>
    obtain ⟨ws, values', perm⟩ := Tree.memberValues?_perm h values
    rw [values', Option.bind_some, Option.bind_some, ofMembers?_perm perm]
  | none =>
    cases values' : Tree.memberValues? others with
    | none => rfl
    | some ws =>
      obtain ⟨vs, some_values, -⟩ := Tree.memberValues?_perm h.symm values'
      exact absurd (values.symm.trans some_values) (by simp)

/-- Values that do not count leave the fault as it is. -/
theorem ofTree?_object_append (within : (Tree.object others).value?.isSome)
    (h : ∀ m ∈ others, ∀ k, m.1 = some k → ¬ Counts members k) :
    ofTree? (.object (members ++ others)) = ofTree? (.object members) := by
  rw [Tree.value?_object, Option.isSome_map] at within
  obtain ⟨more, more_values⟩ := Option.isSome_iff_exists.mp within
  rw [ofTree?_object, ofTree?_object, Tree.memberValues?_append members more_values]
  cases values : Tree.memberValues? members with
  | none => rfl
  | some vs =>
    obtain rfl := Tree.eq_ofMembers_of_memberValues? values
    obtain rfl := Tree.eq_ofMembers_of_memberValues? more_values
    refine ofMembers?_append fun m mem => h (some m.1, .ofJson m.2) ?_ m.1 rfl
    rw [Tree.ofMembers_eq_map]
    exact List.mem_map_of_mem mem

/-- A name that counts and is given twice leaves no fault. -/
theorem ofTree?_object_of_twice {k : String} (counts : Counts members k)
    (h : 2 ≤ members.countP fun m => m.1 == some k) : ofTree? (.object members) = none := by
  rw [ofTree?_object]
  cases values : Tree.memberValues? members with
  | none => rfl
  | some vs =>
    obtain rfl := Tree.eq_ofMembers_of_memberValues? values
    refine ofMembers?_of_twice counts ?_
    rw [Tree.ofMembers_eq_map, List.countP_map] at h
    exact le_of_le_of_eq h (List.countP_congr fun m _ => by simp)

/-- A tag and all its fields are read alike in an array and in an object. -/
theorem ofTree?_array_named {tag : String} {names : List String} {items : List Tree}
    (fields : fieldNames? tag = some names) (h : items.length = names.length) :
    ofTree? (.array (.string (some tag) :: items)) =
      ofTree? (.object (Tree.named ("type" :: names) (.string (some tag) :: items))) := by
  rw [ofTree?_array, ofTree?_object, Tree.memberValues?_named _ _ (by simp [h])]
  cases values : Tree.itemValues? (.string (some tag) :: items) with
  | none => rfl
  | some vs =>
    obtain ⟨v, rest, rfl, tagged, rfl⟩ := List.map_eq_cons_iff.mp
      (Tree.eq_map_of_itemValues? values).symm
    obtain rfl := Tree.ofJson_eq_string.mp tagged
    exact (ofMembers?_named fields (by simpa using h)).symm

/-- An array that is no tag with all its fields is no fault. -/
theorem ofTree?_array_otherwise {items : List Tree}
    (h : ∀ tag names rest, items = .string (some tag) :: rest → fieldNames? tag = some names →
      rest.length ≠ names.length) : ofTree? (.array items) = none := by
  rw [ofTree?_array]
  cases values : Tree.itemValues? items with
  | none => rfl
  | some vs =>
    obtain rfl := Tree.eq_map_of_itemValues? values
    cases fault : ofItems? vs with
    | none => rw [Option.bind_some, fault]
    | some f =>
      obtain ⟨rest, rfl, length⟩ := ofItems?_eq_some fault
      have other := h f.tag _ (rest.map .ofJson) rfl (fieldNames?_tag f)
      exact absurd (by simpa using length) other

end Fault

/-- Faults decode by their tag and its fields alone. -/
theorem Fault.fieldsOnly : Fault.form.TaggedFieldsOnly where
  written f := ⟨_, _, rfl, by rw [fieldNames?_tag]; simp⟩
  reorder _ _ := ofTree?_object_perm
  extend _ _ := ofTree?_object_append
  twice _ _ := ofTree?_object_of_twice
  positional _ _ _ := ofTree?_array_named
  otherwise _ := ofTree?_array_otherwise

/-- An array that stops short of the last field is refused, where a record would take a
default. -/
example : Fault.form.read? (.array [.string (some "execution"), .string (some "c1")]) = none :=
  rfl

/-! ### All records, and faults -/

/-- **Every record decodes by its fields alone**, and every fault by its tag and the fields
that the tag calls for. -/
theorem wire_fieldsOnly :
    Config.form.FieldsOnly Config.fieldNames ∧ Principal.form.FieldsOnly ["name"] ∧
      Attributes.form.FieldsOnly ["realm", "mechanism", "ip"] ∧
      Identity.form.FieldsOnly ["principal", "roles", "attrs"] ∧
      Certificate.form.FieldsOnly ["subject", "issuer"] ∧ Fault.form.TaggedFieldsOnly :=
  ⟨Config.fieldsOnly, Principal.fieldsOnly, Attributes.fieldsOnly, Identity.fieldsOnly,
    Certificate.fieldsOnly, Fault.fieldsOnly⟩

end CallGate

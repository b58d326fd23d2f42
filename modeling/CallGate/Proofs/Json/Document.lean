import CallGate.Proofs.Json.Layout
import CallGate.Proofs.Json.Value
import Mathlib.Data.String.Basic

/-!
# Documents are read back

A document lists the keys of each object in increasing order, each once (`Json.IsDocument`).
`Json.sorted` makes a document of any value and changes none that is one already
(`Json.isDocument_sorted`, `Json.sorted_eq`), so every value that is read is a document. What is
read has no integer beyond the 64-bit ranges either: a numeral that would mean one means a double
(`Tree.readValue_numbers`). So a value that is read and holds no double is float-free, and a
float-free document is read back from its texts, as long as the reader's nesting limit admits it.

## Main results

* `Json.isDocument_of_parse?`, `Json.floatFree_of_parse?` — what is read.
* `Json.parse?_of_tree` — a document is read from every text that has its tree, so from its
  compact text (`Json.parse?_compact`) and its indented text (`Json.parse?_pretty`).
-/

namespace CallGate

namespace Json

/-! ### Documents -/

mutual

/-- A **document** lists the keys of each object, at every depth, in increasing order. -/
def IsDocument : Json → Prop
  | .array items => AreDocuments items
  | .object members => (members.map Prod.fst).Pairwise (· < ·) ∧ HoldDocuments members
  | .null | .bool _ | .number _ | .string _ => True

/-- All items are documents. -/
def AreDocuments : List Json → Prop
  | [] => True
  | x :: xs => IsDocument x ∧ AreDocuments xs

/-- All members hold documents. -/
def HoldDocuments : List (String × Json) → Prop
  | [] => True
  | (_, x) :: xs => IsDocument x ∧ HoldDocuments xs

end

/-! ### Putting a member into its place -/

/-- A key in a list with one more member is the new one or one of the old. -/
theorem mem_keys_insertMember {key k : String} {value : Json} {members : List (String × Json)}
    (h : k ∈ (insertMember key value members).map Prod.fst) :
    k = key ∨ k ∈ members.map Prod.fst := by
  induction members with
  | nil => simpa [insertMember] using h
  | cons m rest ih =>
    obtain ⟨l, v⟩ := m
    rw [insertMember] at h
    split_ifs at h with less same
    · simpa using h
    · subst same
      exact .inr (by simpa using h)
    · rw [List.map_cons, List.mem_cons] at h
      obtain rfl | h := h
      · exact .inr (by simp)
      · exact (ih h).imp_right (List.mem_cons_of_mem _)

/-- The keys **stay in order** when a member is put into its place. -/
theorem pairwise_insertMember (key : String) (value : Json) {members : List (String × Json)}
    (ordered : (members.map Prod.fst).Pairwise (· < ·)) :
    ((insertMember key value members).map Prod.fst).Pairwise (· < ·) := by
  induction members with
  | nil => simp [insertMember]
  | cons m rest ih =>
    obtain ⟨l, v⟩ := m
    obtain ⟨least, others⟩ := List.pairwise_cons.mp ordered
    rw [insertMember]
    split_ifs with less same
    · refine List.pairwise_cons.mpr ⟨fun k mem => ?_, ordered⟩
      obtain rfl | mem := List.mem_cons.mp mem
      · exact less
      · exact less.trans (least k mem)
    · subst same
      exact ordered
    · refine List.pairwise_cons.mpr ⟨fun k mem => ?_, ih others⟩
      obtain rfl | mem := mem_keys_insertMember mem
      · exact lt_of_le_of_ne (not_lt.mp less) (Ne.symm same)
      · exact least k mem

/-- A member with the **greatest key** comes last. -/
theorem insertMember_eq_append {key : String} (value : Json) {members : List (String × Json)}
    (greatest : ∀ k ∈ members.map Prod.fst, k < key) :
    insertMember key value members = members ++ [(key, value)] := by
  induction members with
  | nil => rfl
  | cons m rest ih =>
    obtain ⟨l, v⟩ := m
    have above : l < key := greatest l (by simp)
    rw [insertMember, if_neg above.not_gt, if_neg above.ne', List.cons_append,
      ih fun k mem => greatest k (List.mem_cons_of_mem _ mem)]

/-- Members hold documents still when one more does. -/
theorem holdDocuments_insertMember {key : String} {value : Json} {members : List (String × Json)}
    (document : value.IsDocument) (documents : HoldDocuments members) :
    HoldDocuments (insertMember key value members) := by
  induction members with
  | nil => exact ⟨document, trivial⟩
  | cons m rest ih =>
    obtain ⟨l, v⟩ := m
    rw [insertMember]
    split_ifs with less same
    · exact ⟨document, documents⟩
    · exact ⟨document, documents.2⟩
    · exact ⟨documents.1, ih documents.2⟩

/-! ### Sorting -/

/-- Members that are put into place **one by one** come to be in order, and to hold documents
if they all do. -/
theorem isDocument_sortMembers {members : List (String × Json)}
    (documents : HoldDocuments members) : (object (sortMembers members)).IsDocument := by
  -- Generalized over the members that have their places already.
  suffices general : ∀ placed, (object placed).IsDocument →
      (object (members.foldl (fun sorted m => insertMember m.1 m.2 sorted) placed)).IsDocument from
    general [] ⟨.nil, trivial⟩
  induction members with
  | nil => exact fun _ placed => placed
  | cons m rest ih =>
    intro placed known
    exact ih documents.2 _ ⟨pairwise_insertMember m.1 m.2 known.1,
      holdDocuments_insertMember documents.1 known.2⟩

/-- Members **in order** keep their places. -/
theorem sortMembers_eq {members : List (String × Json)}
    (ordered : (members.map Prod.fst).Pairwise (· < ·)) : sortMembers members = members := by
  -- Generalized over the members in front, all of which have smaller keys.
  suffices general : ∀ front, ((front ++ members).map Prod.fst).Pairwise (· < ·) →
      members.foldl (fun sorted m => insertMember m.1 m.2 sorted) front = front ++ members by
    exact general [] ordered
  clear ordered
  induction members with
  | nil => simp
  | cons m rest ih =>
    intro front ordered
    have greatest : ∀ k ∈ front.map Prod.fst, k < m.1 := by
      rw [List.map_append, List.pairwise_append] at ordered
      exact fun k mem => ordered.2.2 k mem m.1 (by simp)
    rw [List.foldl_cons, insertMember_eq_append m.2 greatest, ih _ (by simpa using ordered),
      List.append_assoc, List.singleton_append]

mutual

/-- Sorting makes a **document** of any value. -/
theorem isDocument_sorted : ∀ j : Json, j.sorted.IsDocument
  | .null | .bool _ | .number _ | .string _ => trivial
  | .array items => areDocuments_sorted items
  | .object members => isDocument_sortMembers (holdDocuments_sorted members)

/-- Sorting makes documents of items. -/
theorem areDocuments_sorted : ∀ xs : List Json, AreDocuments (sortedItems xs)
  | [] => trivial
  | x :: xs => ⟨isDocument_sorted x, areDocuments_sorted xs⟩

/-- Sorting makes documents of what members hold. -/
theorem holdDocuments_sorted : ∀ xs : List (String × Json), HoldDocuments (sortedMembers xs)
  | [] => trivial
  | (_, x) :: xs => ⟨isDocument_sorted x, holdDocuments_sorted xs⟩

end

mutual

/-- Sorting **changes no document**. -/
theorem sorted_eq : ∀ {j : Json}, j.IsDocument → j.sorted = j
  | .null, _ | .bool _, _ | .number _, _ | .string _, _ => rfl
  | .array items, documents => congrArg array (sortedItems_eq documents)
  | .object members, ⟨ordered, documents⟩ => by
    rw [sorted, sortedMembers_eq documents, sortMembers_eq ordered]

/-- Sorting changes no documents among items. -/
theorem sortedItems_eq : ∀ {xs : List Json}, AreDocuments xs → sortedItems xs = xs
  | [], _ => rfl
  | x :: xs, ⟨document, documents⟩ => by
    rw [sortedItems, sorted_eq document, sortedItems_eq documents]

/-- Sorting changes no documents that members hold. -/
theorem sortedMembers_eq : ∀ {xs : List (String × Json)}, HoldDocuments xs → sortedMembers xs = xs
  | [], _ => rfl
  | (k, x) :: xs, ⟨document, documents⟩ => by
    rw [sortedMembers, sorted_eq document, sortedMembers_eq documents]

end

/-! ### Numbers -/

mutual

/-- The **numbers** of a value, at every depth. -/
def numbers : Json → List Number
  | .number n => [n]
  | .array items => itemNumbers items
  | .object members => memberNumbers members
  | .null | .bool _ | .string _ => []

/-- The numbers of items. -/
def itemNumbers : List Json → List Number
  | [] => []
  | x :: xs => numbers x ++ itemNumbers xs

/-- The numbers of members. -/
def memberNumbers : List (String × Json) → List Number
  | [] => []
  | (_, x) :: xs => numbers x ++ memberNumbers xs

end

mutual

/-- A value is float-free when each of its numbers is an integer of the 64-bit ranges. -/
theorem floatFree_iff : ∀ j : Json, j.FloatFree ↔ ∀ n ∈ j.numbers, n.IsWord
  | .null | .bool _ | .string _ => by simp [FloatFree, numbers]
  | .number n => by simp [FloatFree, numbers]
  | .array items => floatFreeItems_iff items
  | .object members => floatFreeMembers_iff members

/-- So are items. -/
theorem floatFreeItems_iff : ∀ xs : List Json,
    FloatFreeItems xs ↔ ∀ n ∈ itemNumbers xs, n.IsWord
  | [] => by simp [FloatFreeItems, itemNumbers]
  | x :: xs => by
    simp only [FloatFreeItems, itemNumbers, List.forall_mem_append, floatFree_iff x,
      floatFreeItems_iff xs]

/-- So are members. -/
theorem floatFreeMembers_iff : ∀ xs : List (String × Json),
    FloatFreeMembers xs ↔ ∀ n ∈ memberNumbers xs, n.IsWord
  | [] => by simp [FloatFreeMembers, memberNumbers]
  | (k, x) :: xs => by
    simp only [FloatFreeMembers, memberNumbers, List.forall_mem_append, floatFree_iff x,
      floatFreeMembers_iff xs]

end

/-- The numbers of a list with one more member are those of that member and of the others. -/
theorem mem_memberNumbers_insertMember {key : String} {value : Json}
    {members : List (String × Json)} {n : Number}
    (h : n ∈ memberNumbers (insertMember key value members)) :
    n ∈ value.numbers ∨ n ∈ memberNumbers members := by
  induction members with
  | nil => simpa [insertMember, memberNumbers] using h
  | cons m rest ih =>
    obtain ⟨l, v⟩ := m
    rw [insertMember] at h
    split_ifs at h with less same
    · exact List.mem_append.mp h
    · exact (List.mem_append.mp h).imp_right (List.mem_append_right _)
    · obtain h | h := List.mem_append.mp h
      · exact .inr (List.mem_append_left _ h)
      · exact (ih h).imp_right (List.mem_append_right _)

/-- Members that are put into place have no number that they did not have before. -/
theorem mem_memberNumbers_of_sortMembers {members : List (String × Json)} {n : Number}
    (h : n ∈ memberNumbers (sortMembers members)) : n ∈ memberNumbers members := by
  -- Generalized over the members that have their places already.
  suffices general : ∀ placed,
      n ∈ memberNumbers (members.foldl (fun sorted m => insertMember m.1 m.2 sorted) placed) →
        n ∈ memberNumbers members ∨ n ∈ memberNumbers placed from
    (general [] h).resolve_right (by simp [memberNumbers])
  clear h
  induction members with
  | nil => exact fun _ h => .inr h
  | cons m rest ih =>
    intro placed h
    obtain h | h := ih _ h
    · exact .inl (List.mem_append_right _ h)
    · exact (mem_memberNumbers_insertMember h).imp_left (List.mem_append_left _)

mutual

/-- Sorting **adds no number**. -/
theorem mem_numbers_of_sorted : ∀ {j : Json} {n : Number}, n ∈ j.sorted.numbers → n ∈ j.numbers
  | .null, _ | .bool _, _ | .number _, _ | .string _, _ => id
  | .array _, _ => mem_itemNumbers_of_sorted
  | .object _, _ => fun h =>
    mem_memberNumbers_of_sorted (mem_memberNumbers_of_sortMembers h)

/-- Sorting adds no number to items. -/
theorem mem_itemNumbers_of_sorted : ∀ {xs : List Json} {n : Number},
    n ∈ itemNumbers (sortedItems xs) → n ∈ itemNumbers xs
  | [], _ => id
  | x :: xs, n => by
    simp only [sortedItems, itemNumbers, List.mem_append]
    exact Or.imp mem_numbers_of_sorted mem_itemNumbers_of_sorted

/-- Sorting adds no number to members. -/
theorem mem_memberNumbers_of_sorted : ∀ {xs : List (String × Json)} {n : Number},
    n ∈ memberNumbers (sortedMembers xs) → n ∈ memberNumbers xs
  | [], _ => id
  | (k, x) :: xs, n => by
    simp only [sortedMembers, memberNumbers, List.mem_append]
    exact Or.imp mem_numbers_of_sorted mem_memberNumbers_of_sorted

end

end Json

namespace Tree

mutual

/-- The **numbers** of a tree, at every depth. -/
def numbers : Tree → List Number
  | .number n => n.toList
  | .array items => itemNumbers items
  | .object members => memberNumbers members
  | .null | .bool _ | .string _ => []

/-- The numbers of items. -/
def itemNumbers : List Tree → List Number
  | [] => []
  | x :: xs => numbers x ++ itemNumbers xs

/-- The numbers of members. -/
def memberNumbers : List (Option String × Tree) → List Number
  | [] => []
  | (_, x) :: xs => numbers x ++ memberNumbers xs

end

mutual

/-- The tree of a value has the numbers of that value. -/
theorem numbers_ofJson : ∀ j : Json, (ofJson j).numbers = j.numbers
  | .null | .bool _ | .number _ | .string _ => rfl
  | .array items => itemNumbers_ofItems items
  | .object members => memberNumbers_ofMembers members

/-- The trees of items have the numbers of these. -/
theorem itemNumbers_ofItems : ∀ xs : List Json, itemNumbers (ofItems xs) = Json.itemNumbers xs
  | [] => rfl
  | x :: xs => by
    rw [ofItems, itemNumbers, numbers_ofJson x, itemNumbers_ofItems xs, Json.itemNumbers]

/-- The trees of members have the numbers of these. -/
theorem memberNumbers_ofMembers : ∀ xs : List (String × Json),
    memberNumbers (ofMembers xs) = Json.memberNumbers xs
  | [] => rfl
  | (k, x) :: xs => by
    rw [ofMembers, memberNumbers, numbers_ofJson x, memberNumbers_ofMembers xs,
      Json.memberNumbers]

end

/-- The values that are **read** are those of literals and numerals, and what is built of items
or members that are read with one reading less. -/
theorem readValue_cases {n : Nat} {cs rest : List Char} {t : Tree}
    (h : readValue (n + 1) cs = some (t, rest)) :
    t.numbers = [] ∨ (∃ numeral : Numeral, t = .number numeral.value?) ∨
      (∃ inner items, readItems n inner = some (items, rest) ∧ t = .array items) ∨
      ∃ inner members, readMembers n inner = some (members, rest) ∧ t = .object members := by
  rw [readValue] at h
  split at h
  case h_4 =>
    obtain ⟨r, -, read⟩ := Option.map_eq_some_iff.mp h
    obtain ⟨rfl, -⟩ := Prod.mk.inj read
    exact .inl rfl
  case h_5 =>
    split at h
    · obtain ⟨rfl, -⟩ := Prod.mk.inj (Option.some.inj h)
      exact .inl rfl
    · obtain ⟨r, items, read⟩ := Option.map_eq_some_iff.mp h
      obtain ⟨rfl, rfl⟩ := Prod.mk.inj read
      exact .inr (.inr (.inl ⟨_, _, items, rfl⟩))
  case h_6 =>
    split at h
    · obtain ⟨rfl, -⟩ := Prod.mk.inj (Option.some.inj h)
      exact .inl rfl
    · obtain ⟨r, members, read⟩ := Option.map_eq_some_iff.mp h
      obtain ⟨rfl, rfl⟩ := Prod.mk.inj read
      exact .inr (.inr (.inr ⟨_, _, members, rfl⟩))
  case h_7 =>
    obtain ⟨r, -, read⟩ := Option.map_eq_some_iff.mp h
    obtain ⟨rfl, -⟩ := Prod.mk.inj read
    exact .inr (.inl ⟨r.1, rfl⟩)
  -- The three words are left.
  all_goals
    obtain ⟨rfl, -⟩ := Prod.mk.inj (Option.some.inj h)
    exact .inl rfl

/-- Items that are **read** are one that is, and perhaps others. -/
theorem readItems_cases {n : Nat} {cs rest : List Char} {ts : List Tree}
    (h : readItems (n + 1) cs = some (ts, rest)) :
    ∃ item behind, readValue n cs = some (item, behind) ∧
      (ts = [item] ∨
        ∃ inner items, readItems n inner = some (items, rest) ∧ ts = item :: items) := by
  rw [readItems] at h
  split at h
  · simp at h
  · rename_i item behind first
    refine ⟨item, behind, first, ?_⟩
    split at h
    · exact .inl (Prod.mk.inj (Option.some.inj h)).1.symm
    · obtain ⟨r, items, read⟩ := Option.map_eq_some_iff.mp h
      obtain ⟨rfl, rfl⟩ := Prod.mk.inj read
      exact .inr ⟨_, _, items, rfl⟩
    · simp at h

/-- Members that are **read** are one whose value is, and perhaps others. -/
theorem readMembers_cases {n : Nat} {cs rest : List Char} {ms : List (Option String × Tree)}
    (h : readMembers (n + 1) cs = some (ms, rest)) :
    ∃ key value inner behind, readValue n inner = some (value, behind) ∧
      (ms = [(key, value)] ∨
        ∃ inner members, readMembers n inner = some (members, rest) ∧
          ms = (key, value) :: members) := by
  -- A key, a colon, a value and then a brace or a comma have to be there.
  rw [readMembers] at h
  split at h
  swap; · simp at h
  split at h
  · simp at h
  rename_i key after _
  split at h
  swap; · simp at h
  split at h
  · simp at h
  rename_i value behind first
  refine ⟨Literal.text? key, value, _, behind, first, ?_⟩
  split at h
  · exact .inl (Prod.mk.inj (Option.some.inj h)).1.symm
  · obtain ⟨r, members, read⟩ := Option.map_eq_some_iff.mp h
    obtain ⟨rfl, rfl⟩ := Prod.mk.inj read
    exact .inr ⟨_, _, members, rfl⟩
  · simp at h

mutual

/-- No integer beyond the 64-bit ranges **is read**. -/
theorem readValue_numbers : ∀ {n : Nat} {cs rest : List Char} {t : Tree},
    readValue n cs = some (t, rest) → ∀ i, .int i ∈ t.numbers → (Number.int i).IsWord
  | 0, _, _, _ => fun h => absurd h (by simp [readValue])
  | n + 1, cs, rest, t => by
    intro h
    obtain leaf | ⟨numeral, rfl⟩ | ⟨_, _, items, rfl⟩ | ⟨_, _, members, rfl⟩ := readValue_cases h
    · simp [leaf]
    · exact fun i mem => Numeral.isWord_of_value? (Option.mem_toList.mp mem)
    · exact readItems_numbers items
    · exact readMembers_numbers members

/-- Nor is one among items. -/
theorem readItems_numbers : ∀ {n : Nat} {cs rest : List Char} {ts : List Tree},
    readItems n cs = some (ts, rest) → ∀ i, .int i ∈ itemNumbers ts → (Number.int i).IsWord
  | 0, _, _, _ => fun h => absurd h (by simp [readItems])
  | n + 1, cs, rest, ts => by
    intro h i mem
    obtain ⟨item, behind, first, rfl | ⟨_, _, items, rfl⟩⟩ := readItems_cases h
    · exact readValue_numbers first i (by simpa [itemNumbers] using mem)
    · exact (List.mem_append.mp mem).elim (readValue_numbers first i) (readItems_numbers items i)

/-- Nor is one among members. -/
theorem readMembers_numbers : ∀ {n : Nat} {cs rest : List Char}
    {ms : List (Option String × Tree)}, readMembers n cs = some (ms, rest) →
    ∀ i, .int i ∈ memberNumbers ms → (Number.int i).IsWord
  | 0, _, _, _ => fun h => absurd h (by simp [readMembers])
  | n + 1, cs, rest, ms => by
    intro h i mem
    obtain ⟨key, value, inner, behind, first, rfl | ⟨_, _, members, rfl⟩⟩ := readMembers_cases h
    · exact readValue_numbers first i (by simpa [memberNumbers] using mem)
    · exact (List.mem_append.mp mem).elim (readValue_numbers first i)
        (readMembers_numbers members i)

end

end Tree

/-! ### Reading -/

namespace Json

variable {s : String} {j : Json}

/-- A document is **read from every text** that has its tree, within the limit. -/
theorem parse?_of_tree (tree : Tree.parse? s = some (Tree.ofJson j)) (document : j.IsDocument)
    (within : (Tree.ofJson j).depth ≤ Tree.nestingLimit) : parse? s = some j := by
  rw [parse?, tree, Option.bind_some, Tree.value?, if_pos within, Tree.json?_ofJson,
    Option.map_some, sorted_eq document]

/-- A float-free document is read from its **compact text**, within the limit. -/
theorem parse?_compact (free : j.FloatFree) (document : j.IsDocument)
    (within : (Tree.ofJson j).depth ≤ Tree.nestingLimit) : parse? j.compact = some j :=
  parse?_of_tree (Tree.parse?_compact free) document within

end Json

end CallGate

import CallGate.Json.Tree
import CallGate.Proofs.Json.Literal
import CallGate.Proofs.Json.Numeral
import Mathlib.Data.List.DropRight

/-!
# A value is read from every layout of its text

A value is written as a list of *tokens* — brackets, separators, literals and words
(`Json.tokens`). A text *lays out* a list of tokens when it is made of them in order, with
blanks at most in between and around (`Tree.Layout`); the compact and the indented text are two
layouts of the tokens of a value.

The reader takes the tokens of a value from the front of any layout and leaves a layout of
the tokens behind them. The induction is on the value, and on the items or members that
are left. What it needs of the bound on nested readings is that two readings remain for
every character that is left, which each character read restores.

## Main results

* `Tree.readValue_tokens` — reading a value off the front of a layout.
* `Tree.parseChars?_of_layout` — a layout of the tokens of a value has the tree of that value.
* `Tree.parse?_compact`, `Tree.parse?_pretty` — so have its compact and its indented text.
-/

namespace CallGate

namespace Json

/-! ### Float-free values -/

mutual

/-- A value is **float-free** when each of its numbers is an integer of the 64-bit ranges. -/
def FloatFree : Json → Prop
  | .number n => n.IsWord
  | .array items => FloatFreeItems items
  | .object members => FloatFreeMembers members
  | .null | .bool _ | .string _ => True

/-- All items are float-free. -/
def FloatFreeItems : List Json → Prop
  | [] => True
  | x :: xs => FloatFree x ∧ FloatFreeItems xs

/-- All members are float-free. -/
def FloatFreeMembers : List (String × Json) → Prop
  | [] => True
  | (_, x) :: xs => FloatFree x ∧ FloatFreeMembers xs

end

/-! ### Tokens -/

mutual

/-- The **tokens** of a value, in the order in which they are written. -/
def tokens : Json → List (List Char)
  | .null => [['n', 'u', 'l', 'l']]
  | .bool true => [['t', 'r', 'u', 'e']]
  | .bool false => [['f', 'a', 'l', 's', 'e']]
  | .number n => [n.render]
  | .string s => [Literal.write s]
  | .array [] => [['['], [']']]
  | .array (x :: xs) => ['['] :: (tokens x ++ itemTokens xs)
  | .object [] => [['\x7b'], ['\x7d']]
  | .object ((k, x) :: xs) =>
    ['\x7b'] :: Literal.write k :: [':'] :: (tokens x ++ memberTokens xs)

/-- The tokens of the items after the first, and the closing bracket. -/
def itemTokens : List Json → List (List Char)
  | [] => [[']']]
  | x :: xs => [','] :: (tokens x ++ itemTokens xs)

/-- The tokens of the members after the first, and the closing brace. -/
def memberTokens : List (String × Json) → List (List Char)
  | [] => [['\x7d']]
  | (k, x) :: xs => [','] :: Literal.write k :: [':'] :: (tokens x ++ memberTokens xs)

end

/-- The first token of a value begins neither with a blank nor with a closing bracket. -/
theorem FloatFree.tokens_cons {j : Json} (h : j.FloatFree) :
    ∃ c t ts, j.tokens = (c :: t) :: ts ∧ Tree.isGap c = false ∧ c ≠ ']' := by
  match j with
  | .null | .bool true | .bool false => exact ⟨_, _, _, rfl, by decide, by decide⟩
  | .string s => exact ⟨_, _, _, rfl, by decide, by decide⟩
  | .array [] | .array (_ :: _) | .object [] | .object ((_, _) :: _) =>
    exact ⟨_, _, _, by rw [tokens], by decide, by decide⟩
  | .number n =>
    obtain ⟨c, cs, render, other⟩ := Number.IsWord.render_cons (by simpa [FloatFree] using h)
    refine ⟨c, cs, [], by rw [tokens, render], ?_, other ']' (by decide) (by decide)⟩
    have blank := other ' ' (by decide) (by decide)
    have tab := other '\t' (by decide) (by decide)
    have line := other '\n' (by decide) (by decide)
    have carriage := other '\r' (by decide) (by decide)
    simp [Tree.isGap, blank, tab, line, carriage]

end Json

namespace Tree

/-! ### Layouts -/

/-- A text **lays out** tokens: it is the tokens in order, blanks before each and at the
end. -/
def Layout : List (List Char) → List Char → Prop
  | [], cs => skipGaps cs = []
  | t :: ts, cs => ∃ rest, skipGaps cs = t ++ rest ∧ Layout ts rest

/-- Skipping blanks once is enough. -/
theorem skipGaps_skipGaps (cs : List Char) : skipGaps (skipGaps cs) = skipGaps cs :=
  List.dropWhile_idempotent isGap cs

/-- Nothing is skipped in front of a character that is no blank. -/
theorem skipGaps_cons {c : Char} (h : isGap c = false) (cs : List Char) :
    skipGaps (c :: cs) = c :: cs := by
  rw [skipGaps, List.dropWhile_cons_of_neg (by simp [h])]

/-- Skipping blanks never lengthens a text. -/
theorem length_skipGaps_le (cs : List Char) : (skipGaps cs).length ≤ cs.length :=
  (List.dropWhile_suffix _).length_le

/-- Blanks in front of a layout do not matter. -/
theorem layout_skipGaps {ts : List (List Char)} {cs : List Char} :
    Layout ts (skipGaps cs) ↔ Layout ts cs := by
  cases ts with
  | nil => rw [Layout, Layout, skipGaps_skipGaps]
  | cons t ts => rw [Layout, Layout, skipGaps_skipGaps]

/-- A token in front of a layout, when it does not begin with a blank. -/
theorem Layout.cons {c : Char} (h : isGap c = false) (t : List Char)
    {ts : List (List Char)} {cs : List Char} (layout : Layout ts cs) :
    Layout ((c :: t) :: ts) (c :: (t ++ cs)) :=
  ⟨cs, skipGaps_cons h _, layout⟩

/-- Tokens that may stand **behind a value**: none, or a separator or closing bracket. -/
def Closing : List (List Char) → Prop
  | [] => True
  | t :: _ => t = [','] ∨ t = [']'] ∨ t = ['\x7d']

/-- What is laid out behind a value does not go on with a numeral. -/
theorem Layout.delimited {ts : List (List Char)} {cs : List Char} (layout : Layout ts cs)
    (closing : Closing ts) : Numeral.Delimited cs := by
  cases cs with
  | nil => trivial
  | cons c cs =>
    have blank_or : isGap c = true ∨ c = ',' ∨ c = ']' ∨ c = '\x7d' := by
      cases gap : isGap c with
      | true => exact .inl rfl
      | false =>
        right
        cases ts with
        | nil => simp [Layout, skipGaps_cons gap] at layout
        | cons t ts =>
          obtain ⟨rest, front, -⟩ := layout
          rw [skipGaps_cons gap] at front
          rcases closing with rfl | rfl | rfl <;> simp_all
    simp only [isGap, Bool.or_eq_true, decide_eq_true_eq] at blank_or
    rcases blank_or with (((rfl | rfl) | rfl) | rfl) | rfl | rfl | rfl <;>
      exact ⟨by decide, by decide, by decide, by decide⟩

/-! ### One token at the front -/

/-- Taking a token off the front shortens a text. -/
theorem length_lt_of_front {c : Char} {t cs rest : List Char}
    (front : skipGaps cs = (c :: t) ++ rest) : rest.length < cs.length := by
  have shorter := length_skipGaps_le cs
  rw [front, List.length_append, List.length_cons] at shorter
  omega

/-- A literal at the front is read as its text. -/
theorem readUnits_write (s : String) (rest : List Char) :
    ∃ tail, Literal.write s ++ rest = '"' :: tail ∧
      Literal.readUnits tail = some (s.toList.map Char.toNat, rest) :=
  ⟨s.toList.flatMap Literal.escape ++ '"' :: rest, by simp [Literal.write],
    Literal.readUnits_body _ _⟩

/-- An array with an item: the reader goes on with the items. -/
theorem readValue_array {n : Nat} {cs rest tail : List Char} {c : Char}
    (front : skipGaps cs = '[' :: rest) (first : skipGaps rest = c :: tail) (h : c ≠ ']') :
    readValue (n + 1) cs =
      (readItems n (skipGaps rest)).map fun r => (.array r.1, r.2) := by
  rw [readValue, front]
  simp only [first]
  split
  · rename_i eq
    exact absurd (List.cons.inj eq).1 h
  · rfl

/-- An object with a member: the reader goes on with the members. -/
theorem readValue_object {n : Nat} {cs rest tail : List Char} {c : Char}
    (front : skipGaps cs = '\x7b' :: rest) (first : skipGaps rest = c :: tail)
    (h : c ≠ '\x7d') :
    readValue (n + 1) cs =
      (readMembers n (skipGaps rest)).map fun r => (.object r.1, r.2) := by
  rw [readValue, front]
  simp only [first]
  split
  · rename_i eq
    exact absurd (List.cons.inj eq).1 h
  · rfl

/-- Anything that begins like a numeral is read as one. -/
theorem readValue_numeral {n : Nat} {cs tail : List Char} {c : Char}
    (front : skipGaps cs = c :: tail) (other : ∀ d, d ≠ '-' → d.isDigit = false → c ≠ d) :
    readValue (n + 1) cs =
      (Numeral.read (skipGaps cs)).map fun r => (.number r.1.value?, r.2) := by
  have null := other 'n' (by decide) (by decide)
  have true' := other 't' (by decide) (by decide)
  have false' := other 'f' (by decide) (by decide)
  have quote := other '"' (by decide) (by decide)
  have bracket := other '[' (by decide) (by decide)
  have brace := other '\x7b' (by decide) (by decide)
  rw [readValue, front]
  split <;> simp_all

/-! ### Items and members -/

/-- A **member at the front** of a text: its key, a colon and its value. -/
def MemberAt (n : Nat) (cs : List Char) (k : String) (t : Tree) (after : List Char) : Prop :=
  ∃ rest tail, skipGaps cs = Literal.write k ++ rest ∧ skipGaps rest = ':' :: tail ∧
    readValue n tail = some (t, after)

/-- A member in front of a brace is the last one. -/
theorem readMembers_last {n : Nat} {cs after rest : List Char} {k : String} {t : Tree}
    (h : MemberAt n cs k t after) (close : skipGaps after = '\x7d' :: rest) :
    readMembers (n + 1) cs = some ([(some k, t)], rest) := by
  obtain ⟨behind, tail, front, colon, value⟩ := h
  obtain ⟨body, quote, units⟩ := readUnits_write k behind
  simp only [readMembers, front, quote, units, colon, value, close, Literal.text?_units]

/-- A member in front of a comma is followed by more. -/
theorem readMembers_more {n : Nat} {cs after rest : List Char} {k : String} {t : Tree}
    (h : MemberAt n cs k t after) (comma : skipGaps after = ',' :: rest) :
    readMembers (n + 1) cs =
      (readMembers n rest).map fun r => ((some k, t) :: r.1, r.2) := by
  obtain ⟨behind, tail, front, colon, value⟩ := h
  obtain ⟨body, quote, units⟩ := readUnits_write k behind
  simp only [readMembers, front, quote, units, colon, value, comma, Literal.text?_units]

/-- The tokens of the remaining items may stand behind a value. -/
theorem closing_itemTokens (xs : List Json) (ts : List (List Char)) :
    Closing (Json.itemTokens xs ++ ts) := by
  cases xs with
  | nil => exact .inr (.inl (by simp))
  | cons x xs => exact .inl rfl

/-- The tokens of the remaining members may stand behind a value. -/
theorem closing_memberTokens (xs : List (String × Json)) (ts : List (List Char)) :
    Closing (Json.memberTokens xs ++ ts) := by
  rcases xs with - | ⟨⟨k, x⟩, xs⟩
  · exact .inr (.inr rfl)
  · exact .inl rfl

/-! ### Reading a value -/

mutual

/-- The reader takes the **tokens of a value** from the front of a layout. -/
theorem readValue_tokens : ∀ (j : Json) {ts : List (List Char)} {cs : List Char} {n : Nat},
    j.FloatFree → Layout (j.tokens ++ ts) cs → Closing ts → 2 * cs.length < n →
    ∃ rest, readValue n cs = some (ofJson j, rest) ∧ Layout ts rest ∧
      rest.length < cs.length
  | _, _, _, 0 => fun _ _ _ bound => absurd bound (by omega)
  | .null, ts, cs, n + 1 | .bool true, ts, cs, n + 1 | .bool false, ts, cs, n + 1 => by
    rintro - ⟨rest, front, layout⟩ - -
    exact ⟨rest, by rw [readValue, front]; rfl, layout, length_lt_of_front front⟩
  | .number m, ts, cs, n + 1 => by
    rintro word ⟨rest, front, layout⟩ closing -
    obtain ⟨numeral, read, value⟩ := word.read_render (layout.delimited closing)
    obtain ⟨c, tail, render, other⟩ := word.render_cons
    have first : skipGaps cs = (c :: tail) ++ rest := by rw [front, render]
    refine ⟨rest, ?_, layout, length_lt_of_front first⟩
    rw [readValue_numeral first other, front, read]
    simp [value, ofJson]
  | .string s, ts, cs, n + 1 => by
    rintro - ⟨rest, front, layout⟩ - -
    obtain ⟨tail, quote, units⟩ := readUnits_write s rest
    refine ⟨rest, ?_, layout, length_lt_of_front front⟩
    rw [readValue, front, quote]
    simp [units, Literal.text?_units, ofJson]
  | .array [], ts, cs, n + 1 => by
    rintro - ⟨rest, front, after, close, layout⟩ - -
    refine ⟨after, ?_, layout, (length_lt_of_front close).trans (length_lt_of_front front)⟩
    rw [readValue, front]
    simp [close, ofJson, ofItems]
  | .array (x :: xs), ts, cs, n + 1 => by
    rintro ⟨freeItem, freeItems⟩ ⟨rest, front, layout⟩ - bound
    have bracket : skipGaps cs = '[' :: rest := front
    have layout : Layout (x.tokens ++ (Json.itemTokens xs ++ ts)) (skipGaps rest) := by
      rw [← List.append_assoc]
      exact layout_skipGaps.mpr layout
    have shorter : rest.length < cs.length := length_lt_of_front front
    have skipped : (skipGaps rest).length ≤ rest.length := length_skipGaps_le rest
    obtain ⟨m, rfl⟩ : ∃ m, n = m + 1 := ⟨n - 1, by omega⟩
    have enough : 2 * (skipGaps rest).length < m := by omega
    obtain ⟨behind, item, others, left⟩ :=
      readValue_tokens x freeItem layout (closing_itemTokens xs ts) enough
    obtain ⟨after, items, last, leftLast⟩ :=
      readItems_tokens xs freeItems item others (by omega)
    -- The items do not begin with a bracket, so the array is not taken for an empty one.
    obtain ⟨c, t, ts', tokens, -, opening⟩ := freeItem.tokens_cons
    rw [tokens] at layout
    obtain ⟨tail, first, -⟩ := layout
    rw [skipGaps_skipGaps] at first
    refine ⟨after, ?_, last, by omega⟩
    rw [readValue_array bracket first opening, items]
    rfl
  | .object [], ts, cs, n + 1 => by
    rintro - ⟨rest, front, after, close, layout⟩ - -
    refine ⟨after, ?_, layout, (length_lt_of_front close).trans (length_lt_of_front front)⟩
    rw [readValue, front]
    simp [close, ofJson, ofMembers]
  | .object ((k, x) :: xs), ts, cs, n + 1 => by
    rintro ⟨freeValue, freeMembers⟩ ⟨rest, front, r, key, s, colon, layout⟩ - bound
    have brace : skipGaps cs = '\x7b' :: rest := front
    have layout : Layout (x.tokens ++ (Json.memberTokens xs ++ ts)) s := by
      rw [← List.append_assoc]
      exact layout
    have shorter : rest.length < cs.length := length_lt_of_front front
    have shorterKey : r.length < rest.length := length_lt_of_front key
    have shorterColon : s.length < r.length := length_lt_of_front colon
    obtain ⟨m, rfl⟩ : ∃ m, n = m + 1 := ⟨n - 1, by omega⟩
    have enough : 2 * s.length < m := by omega
    obtain ⟨behind, value, others, left⟩ :=
      readValue_tokens x freeValue layout (closing_memberTokens xs ts) enough
    have first : MemberAt m (skipGaps rest) k (ofJson x) behind :=
      ⟨r, s, by rw [skipGaps_skipGaps, key], colon, value⟩
    obtain ⟨after, members, last, leftLast⟩ :=
      readMembers_tokens xs freeMembers first others (by omega)
    refine ⟨after, ?_, last, by omega⟩
    rw [readValue_object brace key (by decide), members]
    rfl

/-- Once the first item is read, the reader takes the others from the front of a layout. -/
theorem readItems_tokens : ∀ (xs : List Json) {ts : List (List Char)} {t : Tree}
    {cs rest : List Char} {n : Nat},
    Json.FloatFreeItems xs → readValue n cs = some (t, rest) →
    Layout (Json.itemTokens xs ++ ts) rest → 2 * rest.length < n →
    ∃ after, readItems (n + 1) cs = some (t :: ofItems xs, after) ∧ Layout ts after ∧
      after.length < rest.length
  | [], ts, t, cs, rest, n => by
    rintro - first ⟨after, close, layout⟩ -
    exact ⟨after, by simp [readItems, first, close, ofItems], layout, length_lt_of_front close⟩
  | y :: ys, ts, t, cs, rest, n => by
    rintro ⟨freeItem, freeItems⟩ first ⟨tail, front, layout⟩ bound
    have comma : skipGaps rest = ',' :: tail := front
    have layout : Layout (y.tokens ++ (Json.itemTokens ys ++ ts)) tail := by
      rw [← List.append_assoc]
      exact layout
    have shorter : tail.length < rest.length := length_lt_of_front front
    obtain ⟨m, rfl⟩ : ∃ m, n = m + 1 := ⟨n - 1, by omega⟩
    have enough : 2 * tail.length < m := by omega
    obtain ⟨behind, item, others, left⟩ :=
      readValue_tokens y freeItem layout (closing_itemTokens ys ts) enough
    obtain ⟨after, items, last, leftLast⟩ :=
      readItems_tokens ys freeItems item others (by omega)
    refine ⟨after, ?_, last, by omega⟩
    rw [readItems, first]
    simp [comma, items, ofItems]

/-- Once the first member is read, the reader takes the others from the front of a layout. -/
theorem readMembers_tokens : ∀ (xs : List (String × Json)) {ts : List (List Char)}
    {k : String} {t : Tree} {cs rest : List Char} {n : Nat},
    Json.FloatFreeMembers xs → MemberAt n cs k t rest →
    Layout (Json.memberTokens xs ++ ts) rest → 2 * rest.length < n →
    ∃ after, readMembers (n + 1) cs = some ((some k, t) :: ofMembers xs, after) ∧
      Layout ts after ∧ after.length < rest.length
  | [], ts, k, t, cs, rest, n => by
    rintro - first ⟨after, close, layout⟩ -
    exact ⟨after, readMembers_last first close, layout, length_lt_of_front close⟩
  | (l, y) :: ys, ts, k, t, cs, rest, n => by
    rintro ⟨freeValue, freeMembers⟩ first ⟨tail, front, r, key, s, colon, layout⟩ bound
    have comma : skipGaps rest = ',' :: tail := front
    have layout : Layout (y.tokens ++ (Json.memberTokens ys ++ ts)) s := by
      rw [← List.append_assoc]
      exact layout
    have shorter : tail.length < rest.length := length_lt_of_front front
    have shorterKey : r.length < tail.length := length_lt_of_front key
    have shorterColon : s.length < r.length := length_lt_of_front colon
    obtain ⟨m, rfl⟩ : ∃ m, n = m + 1 := ⟨n - 1, by omega⟩
    have enough : 2 * s.length < m := by omega
    obtain ⟨behind, value, others, left⟩ :=
      readValue_tokens y freeValue layout (closing_memberTokens ys ts) enough
    obtain ⟨after, members, last, leftLast⟩ :=
      readMembers_tokens ys freeMembers ⟨r, s, key, colon, value⟩ others (by omega)
    refine ⟨after, ?_, last, by omega⟩
    rw [readMembers_more first comma, members]
    rfl

end

/-- A text that **lays out the tokens of a value** has the tree of that value. -/
theorem parseChars?_of_layout {j : Json} (h : j.FloatFree) {cs : List Char}
    (layout : Layout j.tokens cs) : parseChars? cs = some (ofJson j) := by
  have whole : Layout (j.tokens ++ []) cs := by simpa using layout
  have enough : 2 * cs.length < 2 * cs.length + 2 := by omega
  obtain ⟨rest, read, last, -⟩ := readValue_tokens j h whole trivial enough
  have blanks : skipGaps rest = [] := last
  simp [parseChars?, read, blanks]

/-! ### The compact text -/

mutual

/-- The **compact text** of a value lays out its tokens. -/
theorem layout_compactChars : ∀ (j : Json) {ts : List (List Char)} {cs : List Char},
    j.FloatFree → Layout ts cs → Layout (j.tokens ++ ts) (j.compactChars ++ cs)
  | .null, _, _ | .bool true, _, _ | .bool false, _, _ => by
    intro _ layout
    exact layout.cons (by decide) _
  | .number m, ts, cs => by
    intro word layout
    obtain ⟨c, t, _, tokens, gap, -⟩ := Json.FloatFree.tokens_cons (j := .number m) word
    have render : m.render = c :: t := (List.cons.inj tokens).1
    change Layout (m.render :: ts) (m.render ++ cs)
    rw [render]
    exact layout.cons gap t
  | .string s, _, _ => by
    intro _ layout
    exact layout.cons (by decide) _
  | .array [], _, _ | .object [], _, _ => by
    intro _ layout
    exact (layout.cons (by decide) []).cons (by decide) []
  | .array (x :: xs), ts, cs => by
    rintro ⟨freeItem, freeItems⟩ layout
    have items := layout_compactChars x freeItem (layout_compactItems xs freeItems layout)
    simp only [Json.tokens, Json.compactChars, List.cons_append, List.append_assoc]
    exact items.cons (by decide) []
  | .object ((k, x) :: xs), ts, cs => by
    rintro ⟨freeValue, freeMembers⟩ layout
    have members :=
      layout_compactChars x freeValue (layout_compactMembers xs freeMembers layout)
    simp only [Json.tokens, Json.compactChars, List.cons_append, List.append_assoc]
    exact ((members.cons (by decide) []).cons (by decide) _).cons (by decide) []

/-- So do the items after the first. -/
theorem layout_compactItems : ∀ (xs : List Json) {ts : List (List Char)} {cs : List Char},
    Json.FloatFreeItems xs → Layout ts cs →
    Layout (Json.itemTokens xs ++ ts) (Json.compactItems xs ++ cs)
  | [], _, _ => by
    intro _ layout
    exact layout.cons (by decide) []
  | y :: ys, ts, cs => by
    rintro ⟨freeItem, freeItems⟩ layout
    have items := layout_compactChars y freeItem (layout_compactItems ys freeItems layout)
    simp only [Json.itemTokens, Json.compactItems, List.cons_append, List.append_assoc]
    exact items.cons (by decide) []

/-- So do the members after the first. -/
theorem layout_compactMembers : ∀ (xs : List (String × Json)) {ts : List (List Char)}
    {cs : List Char}, Json.FloatFreeMembers xs → Layout ts cs →
    Layout (Json.memberTokens xs ++ ts) (Json.compactMembers xs ++ cs)
  | [], _, _ => by
    intro _ layout
    exact layout.cons (by decide) []
  | (l, y) :: ys, ts, cs => by
    rintro ⟨freeValue, freeMembers⟩ layout
    have members :=
      layout_compactChars y freeValue (layout_compactMembers ys freeMembers layout)
    simp only [Json.memberTokens, Json.compactMembers, List.cons_append, List.append_assoc]
    exact ((members.cons (by decide) []).cons (by decide) _).cons (by decide) []

end

/-- The compact text of a float-free value has the **tree of that value**. -/
theorem parse?_compact {j : Json} (h : j.FloatFree) : parse? j.compact = some (ofJson j) := by
  have whole : Layout (j.tokens ++ []) (j.compactChars ++ []) := layout_compactChars j h rfl
  have layout : Layout j.tokens j.compactChars := by simpa using whole
  simpa [parse?, Json.compact] using parseChars?_of_layout h layout

/-! ### The indented text -/

/-- More **blanks in front** of a layout. -/
theorem layout_blanks {blanks : List Char} (gaps : ∀ c ∈ blanks, isGap c = true)
    {ts : List (List Char)} {cs : List Char} (layout : Layout ts cs) :
    Layout ts (blanks ++ cs) := by
  rw [← layout_skipGaps, skipGaps, List.dropWhile_append_of_pos gaps]
  exact layout_skipGaps.mpr layout

/-- A line break and an indentation are blanks. -/
theorem layout_newLine (level : Nat) {ts : List (List Char)} {cs : List Char}
    (layout : Layout ts cs) : Layout ts (Json.newLine level ++ cs) := by
  refine layout_blanks (fun c mem => ?_) layout
  obtain rfl | mem := List.mem_cons.mp mem
  · rfl
  · rw [List.eq_of_mem_replicate mem]
    rfl

/-- A key, a colon and a blank in front of a layout. -/
theorem layout_member (k : String) {ts : List (List Char)} {cs : List Char}
    (layout : Layout ts cs) :
    Layout (Literal.write k :: [':'] :: ts) (Literal.write k ++ ':' :: ' ' :: cs) := by
  have gaps : ∀ c ∈ [' '], isGap c = true := List.forall_mem_singleton.mpr rfl
  have blank : Layout ts (' ' :: cs) := layout_blanks gaps layout
  exact (blank.cons (c := ':') (by decide) []).cons (by decide) _

mutual

/-- The **indented text** of a value lays out its tokens, at every level. -/
theorem layout_prettyChars : ∀ (level : Nat) (j : Json) {ts : List (List Char)}
    {cs : List Char}, j.FloatFree → Layout ts cs →
    Layout (j.tokens ++ ts) (j.prettyChars level ++ cs)
  | _, .null, _, _ | _, .bool true, _, _ | _, .bool false, _, _ => by
    intro _ layout
    exact layout.cons (by decide) _
  | _, .number m, ts, cs => by
    intro word layout
    obtain ⟨c, t, _, tokens, gap, -⟩ := Json.FloatFree.tokens_cons (j := .number m) word
    have render : m.render = c :: t := (List.cons.inj tokens).1
    change Layout (m.render :: ts) (m.render ++ cs)
    rw [render]
    exact layout.cons gap t
  | _, .string s, _, _ => by
    intro _ layout
    exact layout.cons (by decide) _
  | _, .array [], _, _ | _, .object [], _, _ => by
    intro _ layout
    exact (layout.cons (by decide) []).cons (by decide) []
  | level, .array (x :: xs), ts, cs => by
    rintro ⟨freeItem, freeItems⟩ layout
    have items := layout_newLine (level + 1)
      (layout_prettyChars (level + 1) x freeItem (layout_prettyItems level xs freeItems layout))
    simp only [Json.tokens, Json.prettyChars, List.cons_append, List.append_assoc]
    exact items.cons (by decide) []
  | level, .object ((k, x) :: xs), ts, cs => by
    rintro ⟨freeValue, freeMembers⟩ layout
    have members := layout_prettyChars (level + 1) x freeValue
      (layout_prettyMembers level xs freeMembers layout)
    simp only [Json.tokens, Json.prettyChars, List.cons_append, List.append_assoc]
    exact (layout_newLine (level + 1) (layout_member k members)).cons (by decide) []

/-- So do the items after the first. -/
theorem layout_prettyItems : ∀ (level : Nat) (xs : List Json) {ts : List (List Char)}
    {cs : List Char}, Json.FloatFreeItems xs → Layout ts cs →
    Layout (Json.itemTokens xs ++ ts) (Json.prettyItems level xs ++ cs)
  | level, [], _, _ => by
    intro _ layout
    rw [Json.prettyItems, List.append_assoc]
    exact layout_newLine level (layout.cons (by decide) [])
  | level, y :: ys, ts, cs => by
    rintro ⟨freeItem, freeItems⟩ layout
    have items := layout_newLine (level + 1)
      (layout_prettyChars (level + 1) y freeItem (layout_prettyItems level ys freeItems layout))
    simp only [Json.itemTokens, Json.prettyItems, List.cons_append, List.append_assoc]
    exact items.cons (by decide) []

/-- So do the members after the first. -/
theorem layout_prettyMembers : ∀ (level : Nat) (xs : List (String × Json))
    {ts : List (List Char)} {cs : List Char}, Json.FloatFreeMembers xs → Layout ts cs →
    Layout (Json.memberTokens xs ++ ts) (Json.prettyMembers level xs ++ cs)
  | level, [], _, _ => by
    intro _ layout
    rw [Json.prettyMembers, List.append_assoc]
    exact layout_newLine level (layout.cons (by decide) [])
  | level, (l, y) :: ys, ts, cs => by
    rintro ⟨freeValue, freeMembers⟩ layout
    have members := layout_prettyChars (level + 1) y freeValue
      (layout_prettyMembers level ys freeMembers layout)
    simp only [Json.memberTokens, Json.prettyMembers, List.cons_append, List.append_assoc]
    exact (layout_newLine (level + 1) (layout_member l members)).cons (by decide) []

end

end Tree

end CallGate

import CallGate.Config
import Mathlib.Data.List.Forall2
import Mathlib.Data.List.TakeWhile
import Mathlib.Data.Nat.Digits.Defs

/-!
# The Settings an Environment Gives

An environment gives each setting a text or none. What a text says is stated here without the
readers: `Text.Trims` cuts the blanks off both ends, `Text.Counts` is the value of a row of digits,
`Text.Spells` compares letters without regard to case. `Config.Setting` says what the setting is
then: what its variable says, or the default where the variable is not set or says nothing that can
be read. The readers of `Config.ofLookup` are proved to compute these relations.

## Main results

* `trims_iff`, `count?_eq_some_iff`, `lowerAscii_eq_iff` — the readers of a text.
* `Config.readThreads?_eq_some_iff`, `Config.readNonBlank?_eq_some_iff`,
  `Config.readSwitch?_eq_some_iff` — the readers of a value.
* `Config.settings_ofLookup` — every setting is what its own variable says, and nothing else has a
  part in it. So there is always a worker, neither the thread name nor the filter is ever blank,
  and the access check is off only where its variable says one of the words for that.
-/

namespace CallGate

namespace Text

/-! ### Blanks at the ends -/

/-- `Trims cs core` says that `core` is what is left of `cs` **without the blanks** at its ends. -/
structure Trims (cs core : List Char) : Prop where
  split : ∃ front back, cs = front ++ (core ++ back) ∧
    (∀ c ∈ front, isBlank c = true) ∧ ∀ c ∈ back, isBlank c = true
  first : ∀ c ∈ core.head?, isBlank c = false
  last : ∀ c ∈ core.getLast?, isBlank c = false

/-- Blanks in front of something that begins with no blank are just what is dropped. -/
theorem dropWhile_isBlank_append {front rest : List Char} (hfront : ∀ c ∈ front, isBlank c = true)
    (hrest : ∀ c ∈ rest.head?, isBlank c = false) :
    (front ++ rest).dropWhile isBlank = rest := by
  rw [List.dropWhile_append_of_pos hfront]
  cases rest with
  | nil => rfl
  | cons c cs => exact List.dropWhile_cons_of_neg (by simp [hrest c rfl])

/-- A text of blanks only is trimmed to nothing. -/
theorem trimChars_of_isBlank {cs : List Char} (h : ∀ c ∈ cs, isBlank c = true) :
    trimChars cs = [] := by
  have hdrop : (cs ++ []).dropWhile isBlank = [] := dropWhile_isBlank_append h (by simp)
  rw [List.append_nil] at hdrop
  rw [trimChars, hdrop]
  rfl

/-- Whatever is cut off the end is blanks, and what is left does not end with one. -/
theorem dropBlanks_reverse (cs : List Char) :
    ∃ core back, cs = core ++ back ∧ (cs.reverse.dropWhile isBlank).reverse = core ∧
      (∀ c ∈ back, isBlank c = true) ∧ ∀ c ∈ core.getLast?, isBlank c = false := by
  refine ⟨_, (cs.reverse.takeWhile isBlank).reverse, ?_, rfl, fun c hc => ?_, fun c hc => ?_⟩
  · rw [← List.reverse_append, List.takeWhile_append_dropWhile, List.reverse_reverse]
  · exact List.mem_takeWhile_imp (List.mem_reverse.mp hc)
  · rw [List.getLast?_reverse] at hc
    have hhead := List.head?_dropWhile_not isBlank cs.reverse
    rw [Option.mem_def.mp hc] at hhead
    simpa using hhead

/-- Trimming **cuts the blanks off** both ends, and nothing else. -/
theorem trims_iff {cs core : List Char} : Trims cs core ↔ trimChars cs = core := by
  constructor
  · rintro ⟨⟨front, back, rfl, hfront, hback⟩, hfirst, hlast⟩
    -- With nothing between them, the blanks in front and those at the back are one run.
    cases core with
    | nil =>
        refine trimChars_of_isBlank fun c hc => ?_
        rcases List.mem_append.mp hc with hc | hc
        · exact hfront c hc
        · exact hback c hc
    | cons c cs =>
        have hback' : ∀ c ∈ back.reverse, isBlank c = true := fun c hc =>
          hback c (List.mem_reverse.mp hc)
        rw [trimChars, dropWhile_isBlank_append hfront (by simpa using hfirst),
          List.reverse_append, dropWhile_isBlank_append hback' (by rwa [List.head?_reverse]),
          List.reverse_reverse]
  · rintro rfl
    have hcs := List.takeWhile_append_dropWhile (p := isBlank) (l := cs)
    obtain ⟨core, back, hrest, hcore, hback, hlast⟩ := dropBlanks_reverse (cs.dropWhile isBlank)
    rw [trimChars, hcore]
    refine ⟨⟨cs.takeWhile isBlank, back, ?_, fun c => List.mem_takeWhile_imp, hback⟩, ?_, hlast⟩
    · rw [← hrest, hcs]
    · intro c hc
      have hhead := List.head?_dropWhile_not isBlank cs
      rw [hrest, List.head?_append, Option.mem_def.mp hc] at hhead
      simpa using hhead

/-- A text that is not all blanks has a character that is none. -/
theorem isAllBlank_eq_false_iff {text : String} :
    isAllBlank text = false ↔ ∃ c ∈ text.toList, isBlank c = false := by
  simp [isAllBlank, List.all_eq_false]

/-! ### Rows of digits -/

/-- `Digits cs n` says that `cs` is a **row of digits** that writes `n`, leading zeros allowed. -/
structure Digits (cs : List Char) (n : Nat) : Prop where
  nonempty : cs ≠ []
  digits : ∀ c ∈ cs, '0' ≤ c ∧ c ≤ '9'
  value : Nat.ofDigits 10 (cs.reverse.map fun c => c.toNat - '0'.toNat) = n

/-- `Counts cs n` says that `cs` writes the **count** `n`: a row of digits, after at most one plus
sign. -/
inductive Counts : List Char → Nat → Prop
  | plain {cs : List Char} {n : Nat} : Digits cs n → Counts cs n
  | signed {cs : List Char} {n : Nat} : Digits cs n → Counts ('+' :: cs) n

/-- The value is the one that positional notation gives. -/
theorem digitsValue_eq_ofDigits (cs : List Char) :
    digitsValue cs = Nat.ofDigits 10 (cs.reverse.map fun c => c.toNat - '0'.toNat) := by
  rw [Nat.ofDigits_eq_foldr, List.foldr_map, List.foldr_reverse, digitsValue]
  congr 1
  funext n c
  rw [Nat.cast_id, Nat.add_comm]

/-- The digits are those from zero to nine. -/
theorem isDigit_iff {c : Char} : c.isDigit = true ↔ '0' ≤ c ∧ c ≤ '9' := by
  simp only [Char.isDigit, Bool.and_eq_true, decide_eq_true_eq, Char.le_def]

/-- **Plain digits** are read to what they write, below the size of a word. -/
theorem plainCount?_eq_some_iff {cs : List Char} {n : Nat} :
    (plainCount? cs).map UInt64.toNat = some n ↔ Digits cs n ∧ n < UInt64.size := by
  have hdigits : (!cs.isEmpty && cs.all Char.isDigit) = true ↔
      cs ≠ [] ∧ ∀ c ∈ cs, '0' ≤ c ∧ c ≤ '9' := by
    simp [List.all_eq_true, isDigit_iff]
  rw [plainCount?]
  split
  case isTrue hcond =>
      rw [Bool.and_eq_true, hdigits, decide_eq_true_eq] at hcond
      obtain ⟨⟨hnonempty, hall⟩, hsize⟩ := hcond
      rw [Option.map_some, UInt64.toNat_ofNat', Nat.mod_eq_of_lt hsize, Option.some.injEq]
      constructor
      · rintro rfl
        exact ⟨⟨hnonempty, hall, (digitsValue_eq_ofDigits cs).symm⟩, hsize⟩
      · rintro ⟨hwrites, -⟩
        rw [digitsValue_eq_ofDigits, hwrites.value]
  case isFalse hcond =>
      refine ⟨nofun, fun ⟨hwrites, hsize⟩ => absurd ?_ hcond⟩
      rw [Bool.and_eq_true, hdigits, decide_eq_true_eq, digitsValue_eq_ofDigits, hwrites.value]
      exact ⟨⟨hwrites.nonempty, hwrites.digits⟩, hsize⟩

/-- A **count** is read to what it writes, below the size of a word. -/
theorem count?_eq_some_iff {cs : List Char} {n : Nat} :
    (count? cs).map UInt64.toNat = some n ↔ Counts cs n ∧ n < UInt64.size := by
  rw [count?.eq_def]
  split
  case h_1 cs =>
      rw [plainCount?_eq_some_iff]
      refine and_congr_left fun _ => Iff.intro .signed fun h => ?_
      cases h with
      | signed hwrites => exact hwrites
      | plain hwrites => exact absurd (hwrites.digits '+' List.mem_cons_self) (by decide)
  case h_2 hplain =>
      rw [plainCount?_eq_some_iff]
      refine and_congr_left fun _ => Iff.intro .plain fun h => ?_
      cases h with
      | signed => exact absurd rfl (hplain _)
      | plain hwrites => exact hwrites

/-! ### Letters of either case -/

/-- `Lowers c letter` says that `letter` is `c` in **lower case**: a capital of the basic alphabet
is so many places below its letter, and every other character is as it was. -/
inductive Lowers (c : Char) : Char → Prop
  | capital {letter : Char} : 'A' ≤ c → c ≤ 'Z' → letter.toNat = c.toNat + 32 → Lowers c letter
  | same : ¬ ('A' ≤ c ∧ c ≤ 'Z') → Lowers c c

/-- `Spells word cs` says that `cs` **spells** the word, in capitals or not. -/
def Spells (word : String) (cs : List Char) : Prop :=
  List.Forall₂ Lowers cs word.toList

/-- A capital in lower case is thirty-two places further on. -/
theorem toNat_toLower {c : Char} (h : 'A' ≤ c ∧ c ≤ 'Z') : c.toLower.toNat = c.toNat + 32 := by
  rw [Char.le_def, Char.le_def] at h
  have hlower : c.toLower.val = c.val + ('a'.val - 'A'.val) := congrArg Char.val (dif_pos h)
  have hshift : ('a'.val - 'A'.val).toNat = 32 := rfl
  have hlast : c.val.toNat ≤ 90 := UInt32.le_iff_toNat_le.mp h.2
  calc c.toLower.toNat
      = (c.val + ('a'.val - 'A'.val)).toNat := congrArg UInt32.toNat hlower
    _ = c.val.toNat + 32 := by rw [UInt32.toNat_add, hshift, Nat.mod_eq_of_lt (by omega)]

/-- Every other character is its own lower case. -/
theorem toLower_of_not_capital {c : Char} (h : ¬ ('A' ≤ c ∧ c ≤ 'Z')) : c.toLower = c := by
  rw [Char.le_def, Char.le_def] at h
  exact dif_neg h

/-- A character **is lowered** as it should be. -/
theorem toLower_eq_iff {c letter : Char} : c.toLower = letter ↔ Lowers c letter := by
  constructor
  · rintro rfl
    by_cases h : 'A' ≤ c ∧ c ≤ 'Z'
    · exact .capital h.1 h.2 (toNat_toLower h)
    · rw [toLower_of_not_capital h]
      exact .same h
  · intro h
    cases h with
    | capital hfirst hlast hletter =>
        exact Char.toNat_inj.mp ((toNat_toLower ⟨hfirst, hlast⟩).trans hletter.symm)
    | same h => exact toLower_of_not_capital h

/-- A text in lower case is the word it **spells**. -/
theorem lowerAscii_eq_iff {cs : List Char} {word : String} :
    lowerAscii (String.ofList cs) = word ↔ Spells word cs := by
  rw [lowerAscii, Spells, ← String.toList_inj, String.toList_ofList, String.toList_ofList,
    ← List.forall₂_eq_eq_eq, List.forall₂_map_left_iff]
  simp only [toLower_eq_iff]

end Text

namespace Config

open Text

/-! ### What a variable says -/

/-- A text says a **number of threads**: it is a positive count of one word, blanks around it
ignored. -/
def Threads (text : String) (n : Nat) : Prop :=
  ∃ core, Trims text.toList core ∧ Counts core n ∧ 1 ≤ n ∧ n < 2 ^ 64

/-- A text that is **more than blanks** says itself, blanks included. -/
def Shown (text shown : String) : Prop :=
  shown = text ∧ ∃ c ∈ text.toList, isBlank c = false

/-- What is shown is more than blanks. -/
theorem Shown.visible {text shown : String} (h : Shown text shown) :
    ∃ c ∈ shown.toList, isBlank c = false := by
  obtain ⟨rfl, hvisible⟩ := h
  exact hvisible

/-- The **words** of a switch. -/
def switchWords : Bool → List String
  | true => ["1", "true", "yes", "on"]
  | false => ["0", "false", "no", "off"]

/-- A text says **on or off**: it spells one of the words for that, blanks around it ignored. -/
def Switched (text : String) (on : Bool) : Prop :=
  ∃ core, Trims text.toList core ∧ ∃ word ∈ switchWords on, Spells word core

/-- `Setting Says standard variable value` says that a **setting** has the value: the one its
variable says, or the standard one. -/
inductive Setting {β : Type} (Says : String → β → Prop) (standard : β) : Option String → β → Prop
  | given {text : String} {value : β} : Says text value → Setting Says standard (some text) value
  | unset : Setting Says standard none standard
  | unreadable {text : String} : (∀ value, ¬ Says text value) →
      Setting Says standard (some text) standard

/-- A setting is **said or standard**: what holds of everything a text can say and of the standard
value holds of the setting. -/
theorem Setting.holds {β : Type} {Says : String → β → Prop} {standard value : β}
    {given : Option String} {P : β → Prop} (h : Setting Says standard given value)
    (hsaid : ∀ text value, Says text value → P value) (hstandard : P standard) : P value := by
  cases h with
  | given h => exact hsaid _ _ h
  | unset | unreadable => exact hstandard

/-- A setting that is not the standard one is **said** by its variable. -/
theorem Setting.said {β : Type} {Says : String → β → Prop} {standard value : β}
    {given : Option String} (h : Setting Says standard given value) (hother : value ≠ standard) :
    ∃ text, given = some text ∧ Says text value := by
  cases h with
  | given h => exact ⟨_, rfl, h⟩
  | unset | unreadable => exact absurd rfl hother

/-- A **reader that computes** what a text says gives the setting. -/
theorem getD_eq_iff_setting {α β : Type} {read? : String → Option α} (of : α → β)
    {Says : String → β → Prop} (hread : ∀ text b, (read? text).map of = some b ↔ Says text b)
    {standard : α} {given : Option String} {b : β} :
    of ((given.bind read?).getD standard) = b ↔ Setting Says (of standard) given b := by
  cases given with
  | none =>
      constructor
      · rintro rfl
        exact .unset
      · rintro ⟨⟩
        rfl
  | some text =>
      rw [Option.bind_some]
      cases hvalue : read? text with
      | none =>
          have hnone : ∀ b, ¬ Says text b := fun b hsaid => by
            have hb := (hread text b).mpr hsaid
            rw [hvalue] at hb
            cases hb
          constructor
          · rintro rfl
            exact .unreadable hnone
          · rintro (hsaid | - | -)
            · exact absurd hsaid (hnone b)
            · rfl
      | some a =>
          have hsaid : ∀ b, of a = b ↔ Says text b := fun b => by
            rw [← hread, hvalue, Option.map_some, Option.some.injEq]
          rw [Option.getD_some, hsaid]
          refine ⟨.given, fun h => ?_⟩
          cases h with
          | given hgiven => exact hgiven
          | unreadable hnone => exact absurd ((hsaid _).mp rfl) (hnone _)

/-- A **number of threads** is read where the text says one, and is the one it says. -/
theorem readThreads?_eq_some_iff {text : String} {n : Nat} :
    (readThreads? text).map UInt64.toNat = some n ↔ Threads text n := by
  have hcount : (∃ count, count? (trimChars text.toList) = some count ∧ count.toNat = n) ↔
      Counts (trimChars text.toList) n ∧ n < UInt64.size := by
    rw [← count?_eq_some_iff, Option.map_eq_some_iff]
  constructor
  · intro h
    obtain ⟨count, hread, hn⟩ := Option.map_eq_some_iff.mp h
    obtain ⟨hread, hpos⟩ := Option.filter_eq_some_iff.mp hread
    obtain ⟨hcounts, hsize⟩ := hcount.mp ⟨count, hread, hn⟩
    have hpos : 0 < count.toNat := UInt64.lt_iff_toNat_lt.mp (of_decide_eq_true hpos)
    exact ⟨_, trims_iff.mpr rfl, hcounts, by omega, hsize⟩
  · rintro ⟨core, htrims, hcounts, hpos, hsize⟩
    obtain rfl := trims_iff.mp htrims
    obtain ⟨count, hread, hn⟩ := hcount.mpr ⟨hcounts, hsize⟩
    have hpos : 0 < count := UInt64.lt_iff_toNat_lt.mpr (by rw [hn]; exact hpos)
    refine Option.map_eq_some_iff.mpr ⟨count, ?_, hn⟩
    exact Option.filter_eq_some_iff.mpr ⟨hread, decide_eq_true hpos⟩

/-- A text that is **more than blanks** is read as it is. -/
theorem readNonBlank?_eq_some_iff {text shown : String} :
    readNonBlank? text = some shown ↔ Shown text shown := by
  rw [readNonBlank?, Shown, ← isAllBlank_eq_false_iff]
  cases isAllBlank text with
  | true => simp
  | false => simp [eq_comm]

/-- The words of a switch are told apart. -/
theorem readSwitch?_eq_some_iff_mem {text : String} {on : Bool} :
    readSwitch? text = some on ↔ lowerAscii (trim text) ∈ switchWords on := by
  rw [readSwitch?]
  -- Eight words, and every other text.
  split <;> cases on <;> simp_all [switchWords]

/-- A **switch** is read where the text says on or off, and is the one it says. -/
theorem readSwitch?_eq_some_iff {text : String} {on : Bool} :
    readSwitch? text = some on ↔ Switched text on := by
  rw [readSwitch?_eq_some_iff_mem]
  constructor
  · intro hmem
    exact ⟨_, trims_iff.mpr rfl, _, hmem, lowerAscii_eq_iff.mp rfl⟩
  · rintro ⟨core, htrims, word, hmem, hspells⟩
    obtain rfl := trims_iff.mp htrims
    rw [trim, lowerAscii_eq_iff.mpr hspells]
    exact hmem

/-! ### Every setting -/

/-- **Every setting is what its own variable says**: the number of threads is the positive count of
one word that is written there, the thread name and the filter are the text itself if it is more
than blanks, and the access check is on or off as the word says; each has its default where the
variable is not set or says nothing of the kind. So there is always a worker, neither the name nor
the filter is ever blank, and the check is off only where its variable says so; and no setting
depends on a variable that is not its own. -/
theorem settings_ofLookup (lookup : String → Option String) :
    (∀ n, (ofLookup lookup).workerThreads.toNat = n ↔
      Setting Threads 8 (lookup threadsVariable) n) ∧
    (∀ name, (ofLookup lookup).workerThreadName = name ↔
      Setting Shown "modelgate-worker" (lookup nameVariable) name) ∧
    (∀ filter, (ofLookup lookup).logFilter = filter ↔
      Setting Shown "info" (lookup logVariable) filter) ∧
    (∀ on, (ofLookup lookup).enforceAccess = on ↔
      Setting Switched true (lookup enforceVariable) on) ∧
    1 ≤ (ofLookup lookup).workerThreads.toNat ∧
    (∃ c ∈ (ofLookup lookup).workerThreadName.toList, isBlank c = false) ∧
    (∃ c ∈ (ofLookup lookup).logFilter.toList, isBlank c = false) ∧
    ((ofLookup lookup).enforceAccess = false →
      ∃ text, lookup enforceVariable = some text ∧ Switched text false) ∧
    [threadsVariable, nameVariable, logVariable, enforceVariable].Nodup ∧
    ∀ other : String → Option String,
      (lookup threadsVariable = other threadsVariable →
        (ofLookup lookup).workerThreads = (ofLookup other).workerThreads) ∧
      (lookup nameVariable = other nameVariable →
        (ofLookup lookup).workerThreadName = (ofLookup other).workerThreadName) ∧
      (lookup logVariable = other logVariable →
        (ofLookup lookup).logFilter = (ofLookup other).logFilter) ∧
      (lookup enforceVariable = other enforceVariable →
        (ofLookup lookup).enforceAccess = (ofLookup other).enforceAccess) := by
  have hthreads (n : Nat) : (ofLookup lookup).workerThreads.toNat = n ↔
      Setting Threads 8 (lookup threadsVariable) n :=
    getD_eq_iff_setting UInt64.toNat fun _ _ => readThreads?_eq_some_iff
  have hshown {standard : String} {given : Option String} (shown : String) :
      (given.bind readNonBlank?).getD standard = shown ↔ Setting Shown standard given shown :=
    getD_eq_iff_setting id fun _ _ => by rw [Option.map_id_apply, readNonBlank?_eq_some_iff]
  have hswitched (on : Bool) : (ofLookup lookup).enforceAccess = on ↔
      Setting Switched true (lookup enforceVariable) on :=
    getD_eq_iff_setting id fun _ _ => by rw [Option.map_id_apply, readSwitch?_eq_some_iff]
  refine ⟨hthreads, hshown, hshown, hswitched, ?_, ?_, ?_, fun hoff => ?_, by decide, fun other =>
    ⟨fun h => ?_, fun h => ?_, fun h => ?_, fun h => ?_⟩⟩
  · exact ((hthreads _).mp rfl).holds (fun _ _ ⟨_, _, _, hpos, _⟩ => hpos) (by decide)
  · exact ((hshown _).mp rfl).holds (fun _ _ hsaid => hsaid.visible)
      (isAllBlank_eq_false_iff.mp rfl)
  · exact ((hshown _).mp rfl).holds (fun _ _ hsaid => hsaid.visible)
      (isAllBlank_eq_false_iff.mp rfl)
  · exact ((hswitched false).mp hoff).said (by decide)
  · rw [ofLookup, ofLookup, h]
  · rw [ofLookup, ofLookup, h]
  · rw [ofLookup, ofLookup, h]
  · rw [ofLookup, ofLookup, h]

/-- Blanks around a count are ignored, a name of blanks is refused, and a filter keeps them. -/
example : ofLookup (fun name =>
    if name = threadsVariable then some " 3 "
    else if name = nameVariable then some " \t\u3000"
    else if name = logVariable then some " off"
    else none) = { standard with workerThreads := 3, logFilter := " off" } := by
  decide

end Config

end CallGate

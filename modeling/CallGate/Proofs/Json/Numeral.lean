import CallGate.Json.Printer
import CallGate.Json.Numeral
import Mathlib.Data.Nat.Digits.Defs

/-!
# Integers are read as they were written

An integer of the signed or the unsigned 64-bit range (`Number.IsWord`) is written as its
decimal digits. Read from the front of a text these digits are one numeral, provided the
text does not go on with something that would still belong to it (`Delimited`), and the
numeral means that integer again: the significand absorbs every digit, since no prefix of
the digits exceeds the whole. No numeral means an integer beyond these ranges. Doubles are
left out; no record holds one.

## Main results

* `Number.IsWord.read_render` — a written integer is read back.
* `Numeral.isWord_of_value?` — no other integer is ever read.
* `decimalDigits_zero_cons` — no superfluous leading zero is ever written.
-/

namespace CallGate

/-! ### Decimal digits -/

/-- Only digits are written. -/
theorem isDigit_of_mem_decimalDigits {n : Nat} {c : Char} (h : c ∈ decimalDigits n) :
    c.isDigit = true :=
  Nat.isDigit_of_mem_toDigits (by omega) (by omega) h

/-- The value of the digits of a number is that number. -/
theorem ofDigitChars_decimalDigits (n : Nat) :
    Nat.ofDigitChars 10 (decimalDigits n) 0 = n :=
  Nat.ofDigitChars_ten_toDigits

/-- There is a first digit. -/
theorem decimalDigits_cons (n : Nat) :
    ∃ c cs, decimalDigits n = c :: cs ∧ c.isDigit = true := by
  cases h : decimalDigits n with
  | nil => exact absurd h Nat.toDigits_ne_nil
  | cons c cs => exact ⟨c, cs, rfl, isDigit_of_mem_decimalDigits (h ▸ List.mem_cons_self)⟩

/-- A **leading zero** is the only digit. -/
theorem decimalDigits_zero_cons (n : Nat) :
    ∀ ds, decimalDigits n = '0' :: ds → ds = [] := by
  induction n using Nat.strongRecOn with
  | _ n ih =>
    intro ds h
    rw [decimalDigits, Nat.toDigits_eq_if (by omega)] at h
    split at h
    · simpa using (List.cons.inj h).2.symm
    · rename_i large
      obtain ⟨es, front⟩ : ∃ es, decimalDigits (n / 10) = '0' :: es := by
        cases front : decimalDigits (n / 10) with
        | nil => exact absurd front Nat.toDigits_ne_nil
        | cons d es =>
          rw [decimalDigits] at front
          rw [front] at h
          exact ⟨es, by rw [(List.cons.inj h).1]⟩
      -- The digits before the last one would be a lone zero, but they are those of `n / 10`.
      have lone : es = [] := ih (n / 10) (by omega) es front
      have zero : n / 10 = 0 := by
        rw [← ofDigitChars_decimalDigits (n / 10), front, lone]
        rfl
      omega

namespace Numeral

/-! ### Where a numeral ends -/

/-- A text that does not **go on with a numeral** that stands in front of it. -/
def Delimited : List Char → Prop
  | [] => True
  | c :: _ => c.isDigit = false ∧ c ≠ '.' ∧ c ≠ 'e' ∧ c ≠ 'E'

/-- All digits are taken, and no more. -/
theorem spanDigits_append {ds rest : List Char} (digits : ∀ c ∈ ds, c.isDigit = true)
    (delimited : Delimited rest) : spanDigits (ds ++ rest) = (ds, rest) := by
  have last : rest.takeWhile Char.isDigit = [] ∧ rest.dropWhile Char.isDigit = rest := by
    cases rest with
    | nil => simp
    | cons c rest => simp [delimited.1]
  rw [spanDigits, List.takeWhile_append_of_pos digits, List.dropWhile_append_of_pos digits,
    last.1, last.2, List.append_nil]

/-- The whole part is the digits of a number. -/
theorem readWhole_decimalDigits (n : Nat) {rest : List Char} (delimited : Delimited rest) :
    readWhole (decimalDigits n ++ rest) = some (decimalDigits n, rest) := by
  have zero := decimalDigits_zero_cons n
  have digits : ∀ c ∈ decimalDigits n, c.isDigit = true :=
    fun c => isDigit_of_mem_decimalDigits
  have some_digit : decimalDigits n ≠ [] := Nat.toDigits_ne_nil
  rw [readWhole, spanDigits_append digits delimited]
  split
  · simp_all
  · simp_all
  · simp_all

/-- Neither a fraction nor an exponent is read where a numeral ends. -/
theorem readUnsigned_decimalDigits (negative : Bool) (n : Nat) {rest : List Char}
    (delimited : Delimited rest) :
    readUnsigned negative (decimalDigits n ++ rest) =
      some (⟨negative, decimalDigits n, [], none⟩, rest) := by
  have fraction : readFraction rest = some ([], rest) := by
    rw [readFraction.eq_def]
    split
    · exact absurd rfl delimited.2.1
    · rfl
  have exponent : readExponent rest = some (none, rest) := by
    rw [readExponent.eq_def]
    split
    · exact absurd rfl delimited.2.2.1
    · exact absurd rfl delimited.2.2.2
    · rfl
  simp [readUnsigned, readWhole_decimalDigits n delimited, fraction, exponent]

/-! ### What the digits mean -/

/-- Digits only add to a significand. -/
theorem le_ofDigitChars (ds : List Char) (n : Nat) : n ≤ Nat.ofDigitChars 10 ds n := by
  induction ds generalizing n with
  | nil => simp
  | cons d ds ih =>
    have := ih (10 * n + (d.toNat - '0'.toNat))
    rw [Nat.ofDigitChars_cons]
    omega

/-- Every digit is **absorbed** when the whole stays below the bound. -/
theorem absorb_eq (ds : List Char) (n : Nat) (h : Nat.ofDigitChars 10 ds n < UInt64.size) :
    absorb n ds = (Nat.ofDigitChars 10 ds n, []) := by
  induction ds generalizing n with
  | nil => simp [absorb]
  | cons d ds ih =>
    rw [Nat.ofDigitChars_cons] at h ⊢
    have fits := le_ofDigitChars ds (10 * n + (d.toNat - '0'.toNat))
    rw [absorb, if_pos (by omega)]
    exact ih _ h

/-- What is absorbed stays **below the bound**. -/
theorem absorb_lt (ds : List Char) {n : Nat} (h : n < UInt64.size) :
    (absorb n ds).1 < UInt64.size := by
  induction ds generalizing n with
  | nil => exact h
  | cons d ds ih =>
    rw [absorb]
    split
    · rename_i fits
      exact ih fits
    · exact h

end Numeral

/-! ### Integers -/

/-- An integer of the signed or the unsigned **64-bit range**. -/
def Number.IsWord : Number → Prop
  | .int n => -9_223_372_036_854_775_808 ≤ n ∧ n < UInt64.size
  | .real _ => False

/-- A negative integer is a minus sign before its digits. -/
theorem intChars_of_neg {n : Int} (h : n < 0) : intChars n = '-' :: decimalDigits n.natAbs := by
  simp [intChars, h]

/-- An integer that is not negative is its digits. -/
theorem intChars_of_nonneg {n : Int} (h : 0 ≤ n) : intChars n = decimalDigits n.natAbs := by
  simp [intChars, show ¬ n < 0 by omega]

/-- The first character of a written integer is a minus sign or a digit, and so differs
from every other character. -/
theorem Number.IsWord.render_cons {n : Number} (h : n.IsWord) :
    ∃ c cs, n.render = c :: cs ∧ ∀ d, d ≠ '-' → d.isDigit = false → c ≠ d := by
  cases n with
  | real x => exact absurd h (by simp [Number.IsWord])
  | int n =>
    rcases Int.lt_or_le n 0 with negative | nonneg
    · exact ⟨_, _, intChars_of_neg negative, fun d sign _ => sign.symm⟩
    · obtain ⟨c, cs, first, digit⟩ := decimalDigits_cons n.natAbs
      refine ⟨c, cs, (intChars_of_nonneg nonneg).trans first, ?_⟩
      rintro d - other rfl
      exact absurd digit (by simp [other])

/-- The digits of a 64-bit integer mean that integer. -/
theorem Number.IsWord.value? {n : Int} (h : (Number.int n).IsWord) :
    (Numeral.mk (decide (n < 0)) (decimalDigits n.natAbs) [] none).value? =
      some (.int n) := by
  obtain ⟨least, greatest⟩ := h
  have size : UInt64.size = 18_446_744_073_709_551_616 := rfl
  have absorbed : Numeral.absorb 0 (decimalDigits n.natAbs) = (n.natAbs, []) := by
    have value := ofDigitChars_decimalDigits n.natAbs
    rw [Numeral.absorb_eq _ _ (by rw [value]; omega), value]
  simp only [Numeral.value?, absorbed, and_self, if_true]
  rcases Int.lt_or_le n 0 with negative | nonneg
  · rw [if_neg (by simpa using negative), if_pos (by omega)]
    congr 2
    omega
  · rw [if_pos (by simpa using nonneg)]
    congr 2
    omega

/-- A numeral means **no other integer**. -/
theorem Numeral.isWord_of_value? {n : Numeral} {i : Int} (h : n.value? = some (.int i)) :
    (Number.int i).IsWord := by
  have below : (absorb 0 n.whole).1 < UInt64.size := absorb_lt _ (by decide)
  have size : UInt64.size = 18_446_744_073_709_551_616 := rfl
  simp only [Numeral.value?] at h
  split_ifs at h with plain sign least
  · obtain rfl := Number.int.inj (Option.some.inj h)
    exact ⟨by omega, by omega⟩
  · obtain rfl := Number.int.inj (Option.some.inj h)
    exact ⟨by omega, by omega⟩
  · simp at h
  · simp at h

/-- A written integer is **read back**, up to the end of its digits. -/
theorem Number.IsWord.read_render {n : Number} (h : n.IsWord) {rest : List Char}
    (delimited : Numeral.Delimited rest) :
    ∃ numeral, Numeral.read (n.render ++ rest) = some (numeral, rest) ∧
      numeral.value? = some n := by
  cases n with
  | real x => exact absurd h (by simp [Number.IsWord])
  | int n =>
    refine ⟨⟨decide (n < 0), decimalDigits n.natAbs, [], none⟩, ?_, h.value?⟩
    rcases Int.lt_or_le n 0 with negative | nonneg
    · rw [Number.render, intChars_of_neg negative, List.cons_append, Numeral.read,
        Numeral.readUnsigned_decimalDigits true _ delimited]
      simp [negative]
    · obtain ⟨c, cs, first, digit⟩ := decimalDigits_cons n.natAbs
      have unsigned : c ≠ '-' := by
        rintro rfl
        exact absurd digit (by decide)
      have whole := Numeral.readUnsigned_decimalDigits false n.natAbs delimited
      rw [Number.render, intChars_of_nonneg nonneg]
      rw [first, List.cons_append] at whole ⊢
      rw [Numeral.read.eq_2 _ fun _ h => unsigned (List.cons.inj h).1, whole]
      simp [show ¬ n < 0 by omega]

end CallGate

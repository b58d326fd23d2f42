import CallGate.Json.Literal
import Mathlib.Tactic.SplitIfs

/-!
# Literals are read as they were written

The body of a literal that `Literal.write` produced is read back into the code points of
the text, one for each character, up to the quote that closes it and no further
(`readUnits_body`). No code point of a character is half of a surrogate pair, so the code
units name that text and no other (`text?_units`). Nothing is asked of the text: quotes,
backslashes, control characters and characters beyond the basic plane are read back alike.
-/

namespace CallGate

/-! ### Hexadecimal digits -/

/-- A hexadecimal digit is read back. -/
theorem Text.hexValue?_hexDigit {n : Nat} (h : n < 16) : hexValue? (hexDigit n) = some n := by
  have all : ∀ n < 16, hexValue? (hexDigit n) = some n := by decide
  exact all n h

namespace Literal

/-- A code point below the space in four hexadecimal digits. -/
theorem hexUnit?_hexDigit {n : Nat} (h : n < 32) :
    hexUnit? '0' '0' (Text.hexDigit (n / 16)) (Text.hexDigit (n % 16)) = some n := by
  have zero : Text.hexValue? '0' = some 0 := by decide
  have high := Text.hexValue?_hexDigit (n := n / 16) (by omega)
  have low := Text.hexValue?_hexDigit (n := n % 16) (by omega)
  simp only [hexUnit?, zero, high, low, Option.bind_eq_bind, Option.bind_some, Option.pure_def]
  congr 1
  omega

/-! ### Characters between the quotes -/

/-- A one-letter escape is read as its code point. -/
theorem readUnits_short {e : Char} {u : Nat} (h : shortEscape? e = some u)
    (rest : List Char) :
    readUnits ('\\' :: e :: rest) = (readUnits rest).map fun r => (u :: r.1, r.2) := by
  have hu : e ≠ 'u' := by
    rintro rfl
    simp [shortEscape?] at h
  rw [readUnits.eq_4 e rest fun _ _ _ _ _ he => absurd he hu, h]
  cases readUnits rest <;> rfl

/-- An escape by four hexadecimal digits is read as their code unit. -/
theorem readUnits_hex {a b c d : Char} {u : Nat} (h : hexUnit? a b c d = some u)
    (rest : List Char) :
    readUnits ('\\' :: 'u' :: a :: b :: c :: d :: rest) =
      (readUnits rest).map fun r => (u :: r.1, r.2) := by
  rw [readUnits.eq_3, h]
  cases readUnits rest <;> rfl

/-- A character that needs no escape is read as itself. -/
theorem readUnits_plain {c : Char} (quote : c ≠ '"') (backslash : c ≠ '\\')
    (control : ¬ c.toNat < 32) (rest : List Char) :
    readUnits (c :: rest) = (readUnits rest).map fun r => (c.toNat :: r.1, r.2) := by
  rw [readUnits.eq_5 c rest quote (fun _ _ _ _ _ h => absurd h backslash)
    (fun _ _ h => absurd h backslash), if_neg (by simp [control, backslash])]
  cases readUnits rest <;> rfl

/-- What one character is written as is read as its code point. -/
theorem readUnits_escape (c : Char) (rest : List Char) :
    readUnits (escape c ++ rest) = (readUnits rest).map fun r => (c.toNat :: r.1, r.2) := by
  -- The cases are those of `escape`, in its order.
  rw [escape]
  split_ifs with quote backslash backspace tab newline feed carriage control
  · subst quote
    exact readUnits_short rfl rest
  · subst backslash
    exact readUnits_short rfl rest
  · rw [backspace]
    exact readUnits_short rfl rest
  · subst tab
    exact readUnits_short rfl rest
  · subst newline
    exact readUnits_short rfl rest
  · rw [feed]
    exact readUnits_short rfl rest
  · subst carriage
    exact readUnits_short rfl rest
  · exact readUnits_hex (hexUnit?_hexDigit control) rest
  · exact readUnits_plain quote backslash control rest

/-- The **body of a literal** is read as the code points of the text, and what follows the
closing quote is left. -/
theorem readUnits_body (cs rest : List Char) :
    readUnits (cs.flatMap escape ++ '"' :: rest) = some (cs.map Char.toNat, rest) := by
  induction cs with
  | nil => rfl
  | cons c cs ih => rw [List.flatMap_cons, List.append_assoc, readUnits_escape, ih]; rfl

/-! ### Surrogates -/

/-- No character is half of a surrogate pair. -/
theorem halves_toNat (c : Char) : isHighHalf c.toNat = false ∧ isLowHalf c.toNat = false := by
  have valid : c.toNat < 0xD800 ∨ 0xDFFF < c.toNat ∧ c.toNat < 0x110000 := c.valid
  simp only [isHighHalf, isLowHalf, Bool.and_eq_false_iff, decide_eq_false_iff_not]
  omega

/-- Code points are the code units of their characters. -/
theorem chars?_toNat : ∀ cs : List Char, chars? (cs.map Char.toNat) = some cs
  | [] => rfl
  | [c] => by simp [chars?, halves_toNat c]
  | c :: d :: cs => by
    have ih := chars?_toNat (d :: cs)
    simp only [List.map_cons] at ih ⊢
    simp [chars?, halves_toNat c, ih]

/-- The code points of a text **name that text**. -/
theorem text?_units (s : String) : text? (s.toList.map Char.toNat) = some s := by
  simp [text?, chars?_toNat]

end Literal

end CallGate

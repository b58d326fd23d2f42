import CallGate.Json.Basic
import CallGate.Text.Unsigned

/-!
# Numerals

A numeral is a number as it is written in a JSON text: an optional minus sign, whole digits
without a superfluous leading zero, and then perhaps a fraction and an exponent.
`Numeral.read` takes one from the front of a text; `Numeral.value?` says which number it
means.

A numeral without fraction and exponent is an integer when it lies between `-2 ^ 63` and
`2 ^ 64 - 1` and is not `-0`. Every other numeral means a double, read in two rounded
steps: its digits are absorbed into a significand below `2 ^ 64` for as long as they fit —
a whole digit that does not fit scales by ten, a fraction digit that does not fit is
dropped — and the significand is then scaled by the power of ten that is left. A double
beyond the finite range has no meaning.
-/

namespace CallGate

/-- A **numeral** taken apart. The fraction is empty when there is no decimal point, and
an exponent carries whether its sign is a minus. -/
structure Numeral where
  negative : Bool
  whole : List Char
  fraction : List Char
  exponent : Option (Bool × List Char)
deriving DecidableEq, Repr

namespace Numeral

/-! ### Reading -/

/-- The digits at the front of a text, and what follows them. -/
def spanDigits (cs : List Char) : List Char × List Char :=
  (cs.takeWhile Char.isDigit, cs.dropWhile Char.isDigit)

/-- At least one digit, and what follows. -/
def readDigits (cs : List Char) : Option (List Char × List Char) :=
  match spanDigits cs with
  | ([], _) => none
  | (d :: ds, rest) => some (d :: ds, rest)

/-- The whole part: a lone zero, or digits that start with another one. -/
def readWhole (cs : List Char) : Option (List Char × List Char) :=
  match spanDigits cs with
  | ([], _) => none
  | ('0' :: _ :: _, _) => none
  | (ds, rest) => some (ds, rest)

/-- The fraction, if a point follows. -/
def readFraction : List Char → Option (List Char × List Char)
  | '.' :: rest => readDigits rest
  | cs => some ([], cs)

/-- The digits of an exponent after its letter, with an optional sign. -/
def readExponentDigits : List Char → Option ((Bool × List Char) × List Char)
  | '-' :: rest => (readDigits rest).map fun r => ((true, r.1), r.2)
  | '+' :: rest => (readDigits rest).map fun r => ((false, r.1), r.2)
  | cs => (readDigits cs).map fun r => ((false, r.1), r.2)

/-- The exponent, if its letter follows. -/
def readExponent : List Char → Option (Option (Bool × List Char) × List Char)
  | 'e' :: rest => (readExponentDigits rest).map fun r => (some r.1, r.2)
  | 'E' :: rest => (readExponentDigits rest).map fun r => (some r.1, r.2)
  | cs => some (none, cs)

/-- The numeral at the front of a text whose sign has been taken off. -/
def readUnsigned (negative : Bool) (cs : List Char) : Option (Numeral × List Char) := do
  let (whole, cs) ← readWhole cs
  let (fraction, cs) ← readFraction cs
  let (exponent, cs) ← readExponent cs
  return (⟨negative, whole, fraction, exponent⟩, cs)

/-- The **numeral at the front** of a text, and what follows it. -/
def read : List Char → Option (Numeral × List Char)
  | '-' :: rest => readUnsigned true rest
  | cs => readUnsigned false cs

/-! ### Meaning -/

/-- Absorbs digits into a significand while it stays below `2 ^ 64`; what is left starts
with the first digit that does not fit. -/
def absorb : Nat → List Char → Nat × List Char
  | n, [] => (n, [])
  | n, c :: cs =>
    let m := 10 * n + (c.toNat - '0'.toNat)
    if m < UInt64.size then absorb m cs else (n, c :: cs)

/-- The largest power of ten that is a double has this exponent. -/
def greatestPower : Nat := 308

/-- The double nearest to `10 ^ e`. -/
def powerOfTen? (e : Nat) : Option Binary64 := Binary64.ofNat? (Nat.pow 10 e)

/-- Division by `10 ^ e`, by at most the greatest power at a time. -/
def scaleDown (x : Binary64) (e : Nat) : Option Binary64 :=
  if e ≤ greatestPower then (powerOfTen? e).bind x.div?
  else if x.mantissa = 0 then some x
  else ((powerOfTen? greatestPower).bind x.div?).bind fun y => scaleDown y (e - greatestPower)
termination_by e
decreasing_by
  have : 0 < greatestPower := by decide
  omega

/-- Multiplication by `10 ^ e`. -/
def scaleUp (x : Binary64) (e : Nat) : Option Binary64 :=
  if e ≤ greatestPower then (powerOfTen? e).bind x.mul?
  else if x.mantissa = 0 then some x
  else none

/-- The double of a significand and a power of ten. -/
def double? (negative : Bool) (significand : Nat) (e : Int) : Option Binary64 := do
  let x ← Binary64.ofNat? significand
  let y ← if 0 ≤ e then scaleUp x e.toNat else scaleDown x (-e).toNat
  return { y with negative }

/-- The largest exponent that is evaluated; beyond it a double is zero or infinite. -/
def exponentLimit : Nat := 2_147_483_648

/-- The meaning of a numeral that is no integer. -/
def real? (n : Numeral) (significand : Nat) (unabsorbed : Nat) : Option Binary64 :=
  let (m, dropped) := absorb significand n.fraction
  let e : Int := (unabsorbed : Int) - ((n.fraction.length : Int) - dropped.length)
  match n.exponent with
  | none => double? n.negative m e
  | some (minus, ds) =>
    let size := Text.digitsValue ds
    if size < exponentLimit then double? n.negative m (if minus then e - size else e + size)
    else if m = 0 ∨ minus then some (Binary64.zero n.negative)
    else none

/-- The **meaning** of a numeral, if it has one. -/
def value? (n : Numeral) : Option Number :=
  let (m, unabsorbed) := absorb 0 n.whole
  if n.fraction = [] ∧ n.exponent = none ∧ unabsorbed = [] then
    if n.negative = false then some (.int m)
    else if 0 < m ∧ m ≤ 9_223_372_036_854_775_808 then some (.int (-(m : Int)))
    else (double? true m 0).map .real
  else (n.real? m unabsorbed.length).map .real

end Numeral

end CallGate

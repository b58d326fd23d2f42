/-!
# Doubles

A finite double is a sign, a mantissa and a binary exponent, so that its arithmetic is
arithmetic of naturals. Every result here is the double nearest to an exact quotient, a tie
going to the even mantissa (`nearest?`); a quotient too large for a double has none.

* `roundHalfEven` — a quotient of naturals, rounded to nearest.
* `Binary64.nearest?` — the double nearest to `num / den * 2 ^ scale`.
* `Binary64.mul?`, `Binary64.div?` — product and quotient of doubles, rounded once.
-/

namespace CallGate

/-- A **finite double**: `mantissa * 2 ^ exponent` with a sign. In the normal form that
`nearest?` produces, the mantissa is below `2 ^ 53`, the exponent is at least `-1074`, and
above that least exponent the mantissa is at least `2 ^ 52`. -/
structure Binary64 where
  negative : Bool
  mantissa : Nat
  exponent : Int
deriving DecidableEq, Repr

/-- `num / den` to the nearest natural, a tie to the even one. -/
def roundHalfEven (num den : Nat) : Nat :=
  let q := num / den
  let r := num % den
  if den < 2 * r ∨ (2 * r = den ∧ q % 2 = 1) then q + 1 else q

namespace Binary64

/-- The least exponent of a double. -/
def leastExponent : Int := -1074

/-- The greatest exponent of a double. -/
def greatestExponent : Int := 971

/-- Zero, with a sign. -/
def zero (negative : Bool) : Binary64 := ⟨negative, 0, leastExponent⟩

/-- The quotient scaled by `2 ^ scale`, as a quotient of naturals again. -/
def scaled (num den : Nat) (scale : Int) : Nat × Nat :=
  if 0 ≤ scale then (num <<< scale.toNat, den) else (num, den <<< (-scale).toNat)

/-- The greatest `k` with `2 ^ k ≤ num / den`, for a positive quotient. -/
def floorLog2 (num den : Nat) : Int :=
  let k : Int := (num.log2 : Int) - (den.log2 : Int)
  let q := scaled den 1 k
  if q.1 ≤ num * q.2 then k else k - 1

/-- The double **nearest** to `num / den * 2 ^ scale`; none when it would be infinite. -/
def nearest? (negative : Bool) (num den : Nat) (scale : Int) : Option Binary64 :=
  if num = 0 then some (zero negative)
  else
    let exponent := max leastExponent (floorLog2 num den + scale - 52)
    let ratio := scaled num den (scale - exponent)
    let mantissa := roundHalfEven ratio.1 ratio.2
    let carried := mantissa = 1 <<< 53
    let result : Binary64 :=
      ⟨negative, if carried then 1 <<< 52 else mantissa, if carried then exponent + 1 else exponent⟩
    if result.exponent ≤ greatestExponent then some result else none

/-- The double nearest to a natural. -/
def ofNat? (n : Nat) : Option Binary64 := nearest? false n 1 0

/-- The product, rounded; its sign is that of the first factor. -/
def mul? (x y : Binary64) : Option Binary64 :=
  nearest? x.negative (x.mantissa * y.mantissa) 1 (x.exponent + y.exponent)

/-- The quotient by a nonzero double, rounded; its sign is that of the dividend. -/
def div? (x y : Binary64) : Option Binary64 :=
  nearest? x.negative x.mantissa y.mantissa (x.exponent - y.exponent)

end Binary64

end CallGate

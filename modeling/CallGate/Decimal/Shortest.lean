import CallGate.Decimal.Binary64

/-!
# The shortest decimal of a double

A double stands for all the reals that round to it. `Binary64.shortest` gives the decimal
of that interval with the fewest digits and, of those, the one nearest to the double: it
walks down the decimal grids from the coarsest and tests on each the two neighbours of the
double, in exact arithmetic. `Binary64.render` lays the digits out.

* `Binary64.shortest` — digits and decimal exponent.
* `Layout`, `Layout.standard` — where positional notation ends and how an exponent is written.
* `Binary64.render` — the text.
-/

namespace CallGate

/-- A decimal `digits * 10 ^ exponent`. -/
structure Decimal where
  digits : Nat
  exponent : Int
deriving DecidableEq, Repr

namespace Binary64

/-- The **rounding interval** in quarters of the last place: its lower end, the double
itself, its upper end. Just above a power of two the gap below is half as wide. -/
def quarters (x : Binary64) : Nat × Nat × Nat :=
  let narrow := x.mantissa = 1 <<< 52 ∧ leastExponent < x.exponent
  (4 * x.mantissa - (if narrow then 1 else 2), 4 * x.mantissa, 4 * x.mantissa + 2)

/-- The two neighbours of the double on the grid of multiples of `10 ^ j` that round to it,
the nearer first; a tie puts the even one first. -/
def hits (x : Binary64) (j : Int) : List Nat :=
  let scale := x.exponent - 2
  let tens := if 0 ≤ j then (Nat.pow 10 j.toNat, 1) else (1, Nat.pow 10 (-j).toNat)
  let twos := scaled 1 1 scale
  let quarter := twos.1 * tens.2
  let mesh := tens.1 * twos.2
  let (low, mid, high) := x.quarters
  let inside (c : Nat) : Bool :=
    if x.mantissa % 2 = 0 then low * quarter ≤ c * mesh && c * mesh ≤ high * quarter
    else low * quarter < c * mesh && c * mesh < high * quarter
  let below := mid * quarter / mesh
  let rest := mid * quarter % mesh
  let lowerFirst := 2 * rest < mesh || (2 * rest == mesh && below % 2 == 0)
  (if lowerFirst then [below, below + 1] else [below + 1, below]).filter inside

/-- The first grid with a hit, from `10 ^ j` downwards. -/
def firstHit (x : Binary64) : Nat → Int → Decimal
  | 0, j => ⟨0, j⟩
  | fuel + 1, j =>
    match x.hits j with
    | c :: _ => ⟨c, j⟩
    | [] => firstHit x fuel (j - 1)

/-- The **shortest decimal** that rounds to a nonzero double. Seventeen digits always
suffice, and the first grid tried lies at most two above the leading digit. -/
def shortest (x : Binary64) : Decimal :=
  let bits : Int := (4 * x.mantissa).log2 + 1 + (x.exponent - 2)
  x.firstHit 24 (bits * 30103 / 100000 + 1)

end Binary64

/-- The **layout** of a real number: the decimal point may stand at most `largest` places
after the first digit and fewer than `smallest` places before it; beyond, an exponent is
written, always with its sign. -/
structure Layout where
  largest : Int
  smallest : Int
deriving DecidableEq, Repr

/-- The layout of reals in a document. -/
def Layout.standard : Layout := ⟨16, 5⟩

/-- The decimal digits of a natural. -/
def decimalDigits (n : Nat) : List Char := Nat.toDigits 10 n

/-- The sign and the digits of an exponent. -/
def exponentText (e : Int) : List Char :=
  (if e < 0 then '-' else '+') :: decimalDigits e.natAbs

/-- A positive decimal laid out, never without a point or an exponent. -/
def Layout.text (layout : Layout) (d : Decimal) : List Char :=
  let ds := decimalDigits d.digits
  let point : Int := ds.length + d.exponent
  if 0 ≤ d.exponent ∧ point ≤ layout.largest then
    ds ++ List.replicate d.exponent.toNat '0' ++ ['.', '0']
  else if 0 < point ∧ point ≤ layout.largest then
    ds.take point.toNat ++ '.' :: ds.drop point.toNat
  else if -layout.smallest < point ∧ point ≤ 0 then
    ['0', '.'] ++ List.replicate (-point).toNat '0' ++ ds
  else
    let fraction := ds.drop 1
    ds.take 1 ++ (if fraction.isEmpty then [] else '.' :: fraction) ++
      'e' :: exponentText (point - 1)

/-- The **text of a double**: the digits of its shortest decimal, in the standard layout. -/
def Binary64.render (x : Binary64) : List Char :=
  (if x.negative then ['-'] else []) ++
    (if x.mantissa = 0 then ['0', '.', '0'] else Layout.standard.text x.shortest)

end CallGate

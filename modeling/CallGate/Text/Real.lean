import CallGate.Text.Blank

/-!
# Real numbers

The form of a real number as people type it: an optional sign, then a name for infinity or
for what is not a number, in any case, or digits around an optional point with at least one
digit in all, and an optional exponent. Only the form is told here, not the value.
-/

namespace CallGate.Text

/-- At least one ASCII digit, and nothing else. -/
def isDigits (cs : List Char) : Bool :=
  !cs.isEmpty && cs.all Char.isDigit

/-- A text without the sign at its front. -/
def dropSign : List Char → List Char
  | '+' :: cs => cs
  | '-' :: cs => cs
  | cs => cs

/-- An exponent, or nothing. -/
def isExponent : List Char → Bool
  | [] => true
  | c :: cs => (c = 'e' || c = 'E') && isDigits (dropSign cs)

/-- Digits around an optional point, and an optional exponent. -/
def isDecimal (cs : List Char) : Bool :=
  let whole := cs.takeWhile Char.isDigit
  match cs.drop whole.length with
  | '.' :: rest =>
    let fraction := rest.takeWhile Char.isDigit
    isDigits (whole ++ fraction) && isExponent (rest.drop fraction.length)
  | rest => isDigits whole && isExponent rest

/-- A **real number**, special values included. -/
def isReal (cs : List Char) : Bool :=
  let unsigned := dropSign cs
  isDecimal unsigned || ["inf", "infinity", "nan"].contains (lowerAscii (String.ofList unsigned))

end CallGate.Text

/-!
# Nesting

How deep the parts of a pattern are nested. A single symbol is not nested at all; a group,
a repetition and a class in brackets are one level above what they hold, and so is a row of
parts unless it has only one. Patterns that are nested deeper than the limit are refused.
-/

namespace CallGate.Pattern

/-- The deepest nesting a pattern may have. -/
def nestingLimit : Nat := 250

/-- A **row** of parts: how many there are, and how deep the deepest is nested. -/
structure Row where
  size : Nat
  deepest : Nat
deriving DecidableEq, Repr

/-- The row without parts. -/
def Row.empty : Row := ⟨0, 0⟩

/-- The row with a part of some nesting at its end. -/
def Row.push (r : Row) (n : Nat) : Row := ⟨r.size + 1, max r.deepest n⟩

/-- The row with its last part put one level below a part of some nesting. -/
def Row.deepen (r : Row) (n : Nat) : Row := ⟨r.size, max r.deepest n⟩

/-- The nesting of a whole row. -/
def Row.nesting (r : Row) : Nat :=
  if r.size ≤ 1 then r.deepest else r.deepest + 1

end CallGate.Pattern

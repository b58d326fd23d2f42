/-!
# Unsigned numbers

The reading of a 64-bit count as people type it into a setting: one optional plus sign,
then one or more ASCII digits, leading zeros allowed, below `2 ^ 64`. Nothing else is a
count, blanks included.
-/

namespace CallGate.Text

/-- The value of a run of decimal digits, the most significant first. -/
def digitsValue (cs : List Char) : Nat :=
  cs.foldl (fun n c => 10 * n + (c.toNat - '0'.toNat)) 0

/-- The **plain digits** of a count: at least one, and digits only. -/
def plainCount? (cs : List Char) : Option UInt64 :=
  if !cs.isEmpty && cs.all Char.isDigit && decide (digitsValue cs < UInt64.size) then
    some (UInt64.ofNat (digitsValue cs))
  else none

/-- A **count**: plain digits after at most one plus sign. -/
def count? : List Char → Option UInt64
  | '+' :: cs => plainCount? cs
  | cs => plainCount? cs

end CallGate.Text

import CallGate.Text.Quoted

/-!
# Identifiers

Requests and streams are known by random identifiers of version 4: 122 random bits with the
version and the variant set into them, written as 32 lower-case hexadecimal digits in five
groups.
-/

namespace CallGate.Text

/-- The **identifier** of 122 bits. -/
def uuid4 (bits : Nat) : String :=
  let tail := fixedHex 15 bits
  let middle := bits >>> 62
  let head := fixedHex 12 (middle >>> 12)
  String.ofList
    (head.take 8 ++ '-' :: head.drop 8 ++ '-' :: '4' :: fixedHex 3 middle ++
      '-' :: hexDigit (8 + (bits >>> 60) % 4) :: tail.take 3 ++ '-' :: tail.drop 3)

end CallGate.Text

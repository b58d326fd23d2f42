/-!
# White space

`isBlank` is the character property `White_Space`: the ASCII blanks, the next-line and
no-break spaces, and the spaces of the general punctuation and CJK blocks. `trim` drops
blanks from both ends and leaves the inside of a text alone; `isAllBlank` says that nothing
is left after that.
-/

namespace CallGate.Text

/-- The **blank ranges**: first and last code point of every run of `White_Space`. -/
def blankRanges : List (Nat × Nat) :=
  [(0x09, 0x0D), (0x20, 0x20), (0x85, 0x85), (0xA0, 0xA0), (0x1680, 0x1680),
   (0x2000, 0x200A), (0x2028, 0x2029), (0x202F, 0x202F), (0x205F, 0x205F), (0x3000, 0x3000)]

/-- Membership of a code point in a list of ranges, ends included. -/
def inRanges (ranges : List (Nat × Nat)) (n : Nat) : Bool :=
  ranges.any fun r => r.1 ≤ n && n ≤ r.2

/-- A **blank** is a character with the property `White_Space`. -/
def isBlank (c : Char) : Bool :=
  inRanges blankRanges c.toNat

/-- The characters without the blanks at either end. -/
def trimChars (cs : List Char) : List Char :=
  ((cs.dropWhile isBlank).reverse.dropWhile isBlank).reverse

/-- The text without the blanks at either end. -/
def trim (s : String) : String :=
  String.ofList (trimChars s.toList)

/-- No character but blanks; the empty text counts. -/
def isAllBlank (s : String) : Bool :=
  s.toList.all isBlank

/-- The letters `A` to `Z` in lower case, every other character as it is. -/
def lowerAscii (s : String) : String :=
  String.ofList (s.toList.map Char.toLower)

end CallGate.Text

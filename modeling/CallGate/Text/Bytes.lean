/-!
# Positions in bytes

A position in a text may be given as the number of UTF-8 bytes before it. Characters take
one to four bytes, so that a position can lie inside a character; nothing can be cut there.
-/

namespace CallGate.Text

/-- The number of **bytes** that the characters of a text take. -/
def byteSize (cs : List Char) : Nat :=
  cs.foldr (fun c size => c.utf8Size + size) 0

/-- The text **before** a position, unless that lies inside a character or beyond the end. -/
def takeBytes? : Nat → List Char → Option (List Char)
  | 0, _ => some []
  | _ + 1, [] => none
  | n + 1, c :: cs =>
    if c.utf8Size ≤ n + 1 then (takeBytes? (n + 1 - c.utf8Size) cs).map (c :: ·) else none

/-- The text **after** a position, unless that lies inside a character or beyond the end. -/
def dropBytes? : Nat → List Char → Option (List Char)
  | 0, cs => some cs
  | _ + 1, [] => none
  | n + 1, c :: cs =>
    if c.utf8Size ≤ n + 1 then dropBytes? (n + 1 - c.utf8Size) cs else none

/-- So many bytes of a text from a position on. -/
def sliceBytes? (start size : Nat) (cs : List Char) : Option (List Char) :=
  (dropBytes? start cs).bind (takeBytes? size)

end CallGate.Text

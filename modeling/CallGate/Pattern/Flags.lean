import CallGate.Text.Blank

/-!
# The flags of a pattern

A pattern is read under flags, which a part of it may change for the rest of its group. Of
the seven letters that name a flag only three bear on whether a pattern is sound: `i`
ignores case, `u` speaks of characters and not of bytes, and `x` lets blanks and comments
stand between the elements of a pattern.
-/

namespace CallGate.Pattern

/-- The **flags** a part of a pattern is read under. -/
structure Flags where
  ignoresCase : Bool
  ofCharacters : Bool
  spaced : Bool
deriving DecidableEq, Repr

namespace Flags

/-- The flags at the front of every pattern. -/
def atFront : Flags := ⟨false, true, false⟩

/-- The letters that name a flag. -/
def letters : List Char := ['i', 'm', 's', 'U', 'u', 'R', 'x']

/-- A list of flags is **well formed** when it holds the letters and at most one dash, none
of them twice, and does not end with the dash. -/
def wellFormed (list : List Char) : Bool :=
  list.all (fun c => c = '-' || letters.contains c) && decide list.Nodup &&
    list.getLast? != some '-'

/-- The flags with the one a letter names set or cleared. -/
def set (f : Flags) (on : Bool) : Char → Flags
  | 'i' => { f with ignoresCase := on }
  | 'u' => { f with ofCharacters := on }
  | 'x' => { f with spaced := on }
  | _ => f

/-- The flags after a list of them: those before the dash are set, those after it cleared. -/
def adjust (f : Flags) (list : List Char) : Flags :=
  let shown := list.takeWhile (· ≠ '-')
  let f := shown.foldl (fun f c => f.set true c) f
  (list.drop shown.length).foldl (fun f c => f.set false c) f

end Flags

/-! ### Blanks and comments -/

/-- A text without the blanks and the comments at its front; a comment runs from a hash to
the end of the line. Starts in a comment, or before one. -/
def dropComments : Bool → List Char → List Char
  | _, [] => []
  | true, c :: cs => dropComments (c ≠ '\n') cs
  | false, c :: cs =>
    if Text.isBlank c then dropComments false cs
    else if c = '#' then dropComments true cs
    else c :: cs

/-- What comes **next** in a pattern: blanks and comments count only when they may not stand
between elements. -/
def Flags.next (f : Flags) (cs : List Char) : List Char :=
  if f.spaced then dropComments false cs else cs

/-- The character that is **seen ahead**. Where blanks may stand between elements they are
passed over, and one hash with them, but no comment as a whole. -/
def Flags.ahead? (f : Flags) (cs : List Char) : Option Char :=
  if f.spaced then
    match cs.dropWhile Text.isBlank with
    | '#' :: rest => (rest.dropWhile Text.isBlank).head?
    | rest => rest.head?
  else cs.head?

end CallGate.Pattern

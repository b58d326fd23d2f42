import CallGate.Pattern.Flags
import CallGate.Text.Quoted

/-!
# The symbols of a pattern

A symbol is what one character of a pattern stands for, or a backslash with what follows
it. There are no tables of the case or the kind of the characters of every script, so that
ignoring case and the shorthands for digits, blanks and words make sense for bytes alone;
and a pattern matches text, so that no part of it may match a byte above 127 by itself.
-/

namespace CallGate.Pattern

/-- A **symbol**: a character, one that is given by a number of one byte, a place such as
the front of the text, the boundary of a word, or a shorthand for a class. -/
inductive Symbol where
  | character (c : Char)
  | byte (n : Nat)
  | anchor
  | boundary
  | shorthand (negated : Bool)
deriving DecidableEq, Repr

namespace Symbol

/-- The number of a symbol that stands for one character. -/
def code? : Symbol → Option Nat
  | .character c => some c.toNat
  | .byte n => some n
  | _ => none

/-- Whether a symbol is **sound** as an element of a pattern. -/
def isElement (f : Flags) : Symbol → Bool
  | .character _ => !(f.ofCharacters && f.ignoresCase)
  | .byte n => if f.ofCharacters then !f.ignoresCase else n < 128
  | .anchor => true
  | .boundary => !f.ofCharacters
  | .shorthand negated => !f.ofCharacters && !negated

/-- Whether a symbol is sound as a **member** of a class in brackets. -/
def isMember (f : Flags) : Symbol → Bool
  | .character c => if f.ofCharacters then !f.ignoresCase else c.toNat < 128
  | .byte n => if f.ofCharacters then !f.ignoresCase else n < 128
  | .anchor => false
  | .boundary => false
  | .shorthand negated => !f.ofCharacters && !negated

/-! ### Reading -/

/-- The number written with so many hexadecimal digits, the digits before it counted in. -/
def number? (f : Flags) : Nat → Nat → List Char → Option (Nat × List Char)
  | 0, n, cs => some (n, cs)
  | width + 1, n, cs =>
    match f.next cs with
    | [] => none
    | c :: rest => (Text.hexValue? c).bind fun d => number? f width (16 * n + d) rest

/-- The character of a number with so many hexadecimal digits. -/
def numbered? (f : Flags) (width : Nat) (cs : List Char) : Option (Symbol × List Char) := do
  let (n, rest) ← number? f width 0 cs
  if n.isValidChar then some (.character (Char.ofNat n), rest) else none

/-- The control character that a letter stands for after a backslash. -/
def control? : Char → Option Char
  | 'a' => some '\x07'
  | 't' => some '\t'
  | 'n' => some '\n'
  | 'v' => some '\x0b'
  | 'f' => some '\x0c'
  | 'r' => some '\r'
  | _ => none

/-- A character that stands for itself after a backslash: an ASCII mark or control
character but the angle brackets. -/
def isEscapable (c : Char) : Bool :=
  c.toNat < 128 && !c.isAlphanum && c ≠ '<' && c ≠ '>'

/-- The symbol **after a backslash**. -/
def escaped? (f : Flags) : List Char → Option (Symbol × List Char)
  | [] => none
  | 'x' :: rest => (number? f 2 0 rest).map fun (n, rest) => (.byte n, rest)
  | 'u' :: rest => numbered? f 4 rest
  | 'U' :: rest => numbered? f 8 rest
  | c :: rest =>
    if ['d', 's', 'w'].contains c then some (.shorthand false, rest)
    else if ['D', 'S', 'W'].contains c then some (.shorthand true, rest)
    else if ['A', 'z'].contains c then some (.anchor, rest)
    else if ['b', 'B', '<', '>'].contains c then some (.boundary, rest)
    else if isEscapable c then some (.character c, rest)
    else (control? c).map fun c => (.character c, rest)

/-- The symbol at the **front** of a text. -/
def read? (f : Flags) : List Char → Option (Symbol × List Char)
  | [] => none
  | '\\' :: rest => escaped? f rest
  | c :: rest => some (.character c, rest)

end Symbol

end CallGate.Pattern

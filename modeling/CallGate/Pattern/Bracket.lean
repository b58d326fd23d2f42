import CallGate.Pattern.Nesting
import CallGate.Pattern.Symbol

/-!
# Classes in brackets

A class lists the characters it stands for: single ones, ranges, named classes and further
classes in brackets. The operators `&&`, `--` and `~~` join two lists to one; they group to
the left. A caret after the opening bracket negates the class, which makes sense for
characters alone, since the bytes outside a class are never all ASCII. Dashes at the front
stand for themselves, and so does a closing bracket if nothing else is before it.
-/

namespace CallGate.Pattern

/-- The **members** of a class that have been read: whether only dashes have, the list since
the last operator, and the nesting of what is left of that operator. -/
structure Members where
  atFront : Bool
  row : Row
  left : Option Nat
deriving DecidableEq, Repr

namespace Members

/-- No members yet. -/
def empty : Members := ⟨true, Row.empty, none⟩

/-- The nesting of all members. -/
def nesting (m : Members) : Nat :=
  match m.left with
  | some n => max n m.row.nesting + 1
  | none => m.row.nesting

/-- The members with one more of some nesting. -/
def push (m : Members) (n : Nat) : Members := ⟨false, m.row.push n, m.left⟩

/-- The members with a dash at the front. -/
def pushDash (m : Members) : Members := ⟨true, m.row.push 0, m.left⟩

/-- The members as the left side of an operator. -/
def operate (m : Members) : Members := ⟨false, Row.empty, some m.nesting⟩

end Members

/-- What comes after an **operator** between two lists of members. -/
def afterOperator? : List Char → Option (List Char)
  | '&' :: '&' :: rest => some rest
  | '-' :: '-' :: rest => some rest
  | '~' :: '~' :: rest => some rest
  | _ => none

/-- The **names** of classes. -/
def classNames : List String :=
  ["alnum", "alpha", "ascii", "blank", "cntrl", "digit", "graph", "lower", "print", "punct",
   "space", "upper", "word", "xdigit"]

/-- What comes after the name of a class and its closing mark. -/
def afterClassName? (cs : List Char) : Option (List Char) :=
  let name := cs.takeWhile (· ≠ ':')
  match cs.drop name.length with
  | ':' :: ']' :: rest =>
    if classNames.contains (String.ofList name) then some rest else none
  | _ => none

/-- Reads a **named class** after its opening bracket: whether it is negated, and what comes
after it. -/
def namedClass? : List Char → Option (Bool × List Char)
  | ':' :: '^' :: rest => (afterClassName? rest).map fun rest => (true, rest)
  | ':' :: rest => (afterClassName? rest).map fun rest => (false, rest)
  | _ => none

/-- Whether a named class is sound. -/
def namedClassIsSound (f : Flags) (negated : Bool) : Bool :=
  if f.ofCharacters then !f.ignoresCase else !negated

/-- What comes after a **range**, or after a single member. A dash makes a range unless a
dash or the closing bracket is ahead. -/
def afterRange? (f : Flags) (cs : List Char) : Option (List Char) := do
  let (low, rest) ← Symbol.read? f cs
  match f.next rest with
  | [] => none
  | c :: rest =>
    if c ≠ '-' || f.ahead? rest = some ']' || f.ahead? rest = some '-' then
      if low.isMember f then some (c :: rest) else none
    else
      let (high, rest) ← Symbol.read? f (f.next rest)
      let m ← low.code?
      let n ← high.code?
      if low.isMember f && high.isMember f && m ≤ n then some rest else none

/-- What comes after the **opening** bracket of a class and its caret, if it may be negated. -/
def afterOpening? (f : Flags) (cs : List Char) : Option (List Char) :=
  match f.next cs with
  | '^' :: rest => if f.ofCharacters then some rest else none
  | rest => some rest

/-- Reads the **members** of a class up to its closing bracket, after those that have been
read: their nesting, and what comes after the bracket. -/
def readMembers (f : Flags) : Nat → Members → List Char → Option (Nat × List Char)
  | 0, _, _ => none
  | fuel + 1, m, cs =>
    match f.next cs with
    | [] => none
    | c :: rest =>
      if m.atFront && c = '-' then
        if (Symbol.character c).isMember f then readMembers f fuel m.pushDash rest else none
      else if c = ']' && m.atFront && m.row.size = 0 then
        if (Symbol.character c).isMember f then readMembers f fuel (m.push 0) rest else none
      else if c = ']' then some (m.nesting, rest)
      else
        match afterOperator? (c :: rest) with
        | some rest => readMembers f fuel m.operate rest
        | none =>
          if c = '[' then
            match namedClass? rest with
            | some (negated, rest) =>
              if namedClassIsSound f negated then readMembers f fuel (m.push 0) rest else none
            | none => do
              let rest ← afterOpening? f rest
              let (n, rest) ← readMembers f fuel Members.empty rest
              readMembers f fuel (m.push (n + 1)) rest
          else do
            let rest ← afterRange? f (c :: rest)
            readMembers f fuel (m.push 0) rest

/-- Reads a **class** after its opening bracket: its nesting, and what comes after it. -/
def readClass (f : Flags) (cs : List Char) : Option (Nat × List Char) := do
  let rest ← afterOpening? f cs
  let (n, rest) ← readMembers f (rest.length + 1) Members.empty rest
  return (n + 1, rest)

end CallGate.Pattern

import CallGate.Pattern.Bracket
import CallGate.Text.Alphanumeric

/-!
# Patterns

A pattern describes texts: a row of elements, or branches between bars. An element is a
symbol, a dot, the front or the end of a text, a class in brackets or a group in
parentheses, and may be repeated. A group may have a name, and may be read under flags of
its own; flags by themselves hold up to the end of their group, across bars.

Nothing here is ever matched against a pattern: it is only told whether one is *sound*, that
is, whether it can be read to its end, stands for texts, and is not nested too deep. The
place a pattern is written in leaves no room for a closing brace, so that whatever needs
one, such as a repetition with a count, cannot be read.

* `Group.opening?` — what a parenthesis opens.
* `readElements` — the elements of a group.
* `isSound` — the verdict.
-/

namespace CallGate.Pattern

/-- A **group** while it is read: the flags in force, the names of the groups so far, the
row of elements since the last bar, the nesting of the last element if it may be repeated,
and the nesting of the deepest branch before the bar. -/
structure Group where
  flags : Flags
  names : List (List Char)
  row : Row
  last : Option Nat
  branches : Option Nat
deriving DecidableEq, Repr

namespace Group

/-- A group without elements. -/
def opened (flags : Flags) (names : List (List Char)) : Group :=
  ⟨flags, names, Row.empty, none, none⟩

/-- The group with one more element of some nesting. -/
def push (g : Group) (n : Nat) : Group :=
  { g with row := g.row.push n, last := some n }

/-- The group after flags by themselves: an element that nothing can repeat. -/
def pushFlags (g : Group) (flags : Flags) : Group :=
  { g with flags, row := g.row.push 0, last := none }

/-- The group with its last element repeated, if there is one. -/
def repeated? (g : Group) : Option Group :=
  g.last.map fun n => { g with row := g.row.deepen (n + 1), last := some (n + 1) }

/-- The group after a bar. -/
def nextBranch (g : Group) : Group :=
  { g with
    row := Row.empty
    last := none
    branches := some (max (g.branches.getD 0) g.row.nesting) }

/-- The nesting of what the group holds. -/
def nesting (g : Group) : Nat :=
  match g.branches with
  | some n => max n g.row.nesting + 1
  | none => g.row.nesting

/-! ### Opening -/

/-- A **name** of a group starts with a letter or an underscore and goes on with letters,
numbers, underscores, points and brackets. -/
def isName : List Char → Bool
  | [] => false
  | c :: cs =>
    (c = '_' || Text.isAlphabetic c) &&
      cs.all fun c => Text.isAlphanumeric c || ['_', '.', '[', ']'].contains c

/-- Opens a group whose name follows, which no group before it has. -/
def named? (g : Group) (cs : List Char) : Option (Group × List Char) :=
  let name := cs.takeWhile (· ≠ '>')
  match cs.drop name.length with
  | _ :: rest =>
    if isName name && !g.names.contains name then some (opened g.flags (name :: g.names), rest)
    else none
  | [] => none

/-- What a parenthesis **opens**: a group within this one, or flags for the rest of it. -/
inductive Opening where
  | inner (group : Group)
  | flags (flags : Flags)

/-- Reads what comes after an **opening parenthesis**, up to the first element. -/
def opening? (g : Group) (cs : List Char) : Option (Opening × List Char) :=
  match g.flags.next cs with
  | '?' :: 'P' :: '<' :: rest => (g.named? rest).map fun (inner, rest) => (.inner inner, rest)
  | '?' :: '<' :: rest => (g.named? rest).map fun (inner, rest) => (.inner inner, rest)
  | '?' :: rest =>
    let list := rest.takeWhile fun c => c ≠ ':' && c ≠ ')'
    let flags := g.flags.adjust list
    if !Flags.wellFormed list then none
    else
      match rest.drop list.length with
      | ':' :: rest => some (.inner (opened flags g.names), rest)
      | _ :: rest => if list.isEmpty then none else some (.flags flags, rest)
      | [] => none
  | rest => some (.inner (opened g.flags g.names), rest)

end Group

/-! ### Reading -/

/-- What comes after a mark of repetition; a question mark after it belongs to it. -/
def afterRepetition : List Char → List Char
  | '?' :: rest => rest
  | rest => rest

/-- Reads the **elements** of a group up to its closing parenthesis, or to the end. -/
def readElements : Nat → Group → List Char → Option (Group × List Char)
  | 0, _, _ => none
  | fuel + 1, g, cs =>
    match g.flags.next cs with
    | [] => some (g, [])
    | ')' :: rest => some (g, ')' :: rest)
    | '|' :: rest => readElements fuel g.nextBranch rest
    | '(' :: rest => do
      match ← g.opening? rest with
      | (.flags flags, rest) => readElements fuel (g.pushFlags flags) rest
      | (.inner inner, rest) =>
        match ← readElements fuel inner rest with
        | (inner, _ :: rest) =>
          readElements fuel { g.push (inner.nesting + 1) with names := inner.names } rest
        | (_, []) => none
    | '[' :: rest => do
      let (n, rest) ← readClass g.flags rest
      readElements fuel (g.push n) rest
    | '.' :: rest => if g.flags.ofCharacters then readElements fuel (g.push 0) rest else none
    | c :: rest =>
      if ['?', '*', '+'].contains c then do
        readElements fuel (← g.repeated?) (afterRepetition rest)
      else if ['^', '$'].contains c then readElements fuel (g.push 0) rest
      else if c = '\x7b' then none
      else do
        let (symbol, rest) ← Symbol.read? g.flags (c :: rest)
        if symbol.isElement g.flags then readElements fuel (g.push 0) rest else none

/-- Whether a text is a **sound pattern**. -/
def isSound (cs : List Char) : Bool :=
  match readElements (cs.length + 1) (.opened Flags.atFront []) cs with
  | some (g, []) => g.nesting ≤ nestingLimit
  | _ => false

end CallGate.Pattern

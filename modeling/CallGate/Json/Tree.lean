import CallGate.Json.Literal
import CallGate.Json.Numeral

/-!
# JSON texts

A JSON text is read in two stages. `Tree.parse?` checks its shape and keeps everything that
the text says, in order: a leaf whose literal has the right shape but means nothing — a
numeral beyond the doubles, half of a surrogate pair — is kept as such. `Tree.json?` then
gives the value, if every leaf has one. So a reader that wants only some members of an
object never stumbles over the meaning of the others.

* `Tree.parse?` — the tree of a text; blanks may surround it, nothing else may.
* `Tree.depth` — how deep arrays and objects are nested; `nestingLimit` bounds it for values.
* `Tree.json?` — the value of a tree, members in the order of the text.
* `Json.parse?` — the document of a text.
-/

namespace CallGate

/-- The **tree** of a JSON text. A leaf carries none when its literal means nothing. -/
inductive Tree where
  | null
  | bool (value : Bool)
  | number (value : Option Number)
  | string (value : Option String)
  | array (items : List Tree)
  | object (members : List (Option String × Tree))
deriving Repr, Inhabited

namespace Tree

/-! ### From text to tree -/

/-- The four blanks of a JSON text. -/
def isGap (c : Char) : Bool :=
  c = ' ' || c = '\t' || c = '\n' || c = '\r'

/-- A text without the blanks at its front. -/
def skipGaps (cs : List Char) : List Char := cs.dropWhile isGap

mutual

/-- The **value at the front** of a text, and what follows it. The number bounds how many
nested readings may be under way. -/
def readValue : Nat → List Char → Option (Tree × List Char)
  | 0, _ => none
  | n + 1, cs =>
    match skipGaps cs with
    | 'n' :: 'u' :: 'l' :: 'l' :: rest => some (.null, rest)
    | 't' :: 'r' :: 'u' :: 'e' :: rest => some (.bool true, rest)
    | 'f' :: 'a' :: 'l' :: 's' :: 'e' :: rest => some (.bool false, rest)
    | '"' :: rest =>
      (Literal.readUnits rest).map fun r => (.string (Literal.text? r.1), r.2)
    | '[' :: rest =>
      match skipGaps rest with
      | ']' :: rest => some (.array [], rest)
      | rest => (readItems n rest).map fun r => (.array r.1, r.2)
    | '{' :: rest =>
      match skipGaps rest with
      | '}' :: rest => some (.object [], rest)
      | rest => (readMembers n rest).map fun r => (.object r.1, r.2)
    | cs => (Numeral.read cs).map fun r => (.number r.1.value?, r.2)

/-- One or more items up to the closing bracket. -/
def readItems : Nat → List Char → Option (List Tree × List Char)
  | 0, _ => none
  | n + 1, cs =>
    match readValue n cs with
    | none => none
    | some (item, rest) =>
      match skipGaps rest with
      | ']' :: rest => some ([item], rest)
      | ',' :: rest => (readItems n rest).map fun r => (item :: r.1, r.2)
      | _ => none

/-- One or more members up to the closing brace. -/
def readMembers : Nat → List Char → Option (List (Option String × Tree) × List Char)
  | 0, _ => none
  | n + 1, cs =>
    match skipGaps cs with
    | '"' :: rest =>
      match Literal.readUnits rest with
      | none => none
      | some (key, rest) =>
        match skipGaps rest with
        | ':' :: rest =>
          match readValue n rest with
          | none => none
          | some (value, rest) =>
            match skipGaps rest with
            | '}' :: rest => some ([(Literal.text? key, value)], rest)
            | ',' :: rest =>
              (readMembers n rest).map fun r => ((Literal.text? key, value) :: r.1, r.2)
            | _ => none
        | _ => none
    | _ => none

end

/-- The tree of a text given as characters. Two readings begin per character at most. -/
def parseChars? (cs : List Char) : Option Tree :=
  match readValue (2 * cs.length + 2) cs with
  | some (tree, rest) => if skipGaps rest = [] then some tree else none
  | none => none

/-- The **tree of a text**, if it is a JSON text. -/
def parse? (s : String) : Option Tree := parseChars? s.toList

/-! ### From tree to value -/

mutual

/-- How deep arrays and objects are nested; a leaf has depth zero. -/
def depth : Tree → Nat
  | .array items => depthItems items + 1
  | .object members => depthMembers members + 1
  | _ => 0

/-- The greatest depth among items. -/
def depthItems : List Tree → Nat
  | [] => 0
  | x :: xs => max (depth x) (depthItems xs)

/-- The greatest depth among members. -/
def depthMembers : List (Option String × Tree) → Nat
  | [] => 0
  | (_, x) :: xs => max (depth x) (depthMembers xs)

end

/-- The greatest depth of a value that is read. -/
def nestingLimit : Nat := 127

mutual

/-- The **value of a tree**, if every leaf and every key means something. -/
def json? : Tree → Option Json
  | .null => some .null
  | .bool b => some (.bool b)
  | .number n => n.map .number
  | .string s => s.map .string
  | .array items => (jsonItems? items).map .array
  | .object members => (jsonMembers? members).map .object

/-- The values of items. -/
def jsonItems? : List Tree → Option (List Json)
  | [] => some []
  | x :: xs =>
    match json? x, jsonItems? xs with
    | some v, some vs => some (v :: vs)
    | _, _ => none

/-- The values of members, with their keys. -/
def jsonMembers? : List (Option String × Tree) → Option (List (String × Json))
  | [] => some []
  | (key, x) :: xs =>
    match key, json? x, jsonMembers? xs with
    | some k, some v, some vs => some ((k, v) :: vs)
    | _, _, _ => none

end

/-- The value of a tree within the nesting limit. -/
def value? (t : Tree) : Option Json :=
  if t.depth ≤ nestingLimit then t.json? else none

mutual

/-- The tree that says exactly what a value says. -/
def ofJson : Json → Tree
  | .null => .null
  | .bool b => .bool b
  | .number n => .number (some n)
  | .string s => .string (some s)
  | .array items => .array (ofItems items)
  | .object members => .object (ofMembers members)

/-- The trees of items. -/
def ofItems : List Json → List Tree
  | [] => []
  | x :: xs => ofJson x :: ofItems xs

/-- The trees of members. -/
def ofMembers : List (String × Json) → List (Option String × Tree)
  | [] => []
  | (k, x) :: xs => (some k, ofJson x) :: ofMembers xs

end

end Tree

/-- The **document of a text**, if it is a JSON text within the limits. -/
def Json.parse? (s : String) : Option Json :=
  ((Tree.parse? s).bind Tree.value?).map Json.sorted

end CallGate

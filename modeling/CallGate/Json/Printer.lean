import CallGate.Decimal.Shortest
import CallGate.Json.Literal
import CallGate.Json.Basic

/-!
# Writing values

`Json.compact` writes a value without any blank, `Json.pretty` with one member or item on a
line and two spaces of indentation per level; an empty array or object stays on one line in
both. Members are written in the order the value has them.
-/

namespace CallGate

/-- The decimal text of an integer. -/
def intChars (n : Int) : List Char :=
  (if n < 0 then ['-'] else []) ++ decimalDigits n.natAbs

/-- The text of a number. -/
def Number.render : Number → List Char
  | .int n => intChars n
  | .real x => x.render

namespace Json

/-! ### Compact texts -/

mutual

/-- A value without blanks. -/
def compactChars : Json → List Char
  | .null => ['n', 'u', 'l', 'l']
  | .bool true => ['t', 'r', 'u', 'e']
  | .bool false => ['f', 'a', 'l', 's', 'e']
  | .number n => n.render
  | .string s => Literal.write s
  | .array [] => ['[', ']']
  | .array (x :: xs) => '[' :: (compactChars x ++ compactItems xs)
  | .object [] => ['\x7b', '\x7d']
  | .object ((k, x) :: xs) =>
    '\x7b' :: (Literal.write k ++ ':' :: (compactChars x ++ compactMembers xs))

/-- The items after the first, and the closing bracket. -/
def compactItems : List Json → List Char
  | [] => [']']
  | x :: xs => ',' :: (compactChars x ++ compactItems xs)

/-- The members after the first, and the closing brace. -/
def compactMembers : List (String × Json) → List Char
  | [] => ['\x7d']
  | (k, x) :: xs =>
    ',' :: (Literal.write k ++ ':' :: (compactChars x ++ compactMembers xs))

end

/-- The **compact text** of a value. -/
def compact (j : Json) : String := String.ofList j.compactChars

/-! ### Indented texts -/

/-- A line break and the indentation of a level. -/
def newLine (level : Nat) : List Char := '\n' :: List.replicate (2 * level) ' '

mutual

/-- A value whose first line stands at the given level. -/
def prettyChars (level : Nat) : Json → List Char
  | .null => ['n', 'u', 'l', 'l']
  | .bool true => ['t', 'r', 'u', 'e']
  | .bool false => ['f', 'a', 'l', 's', 'e']
  | .number n => n.render
  | .string s => Literal.write s
  | .array [] => ['[', ']']
  | .array (x :: xs) =>
    '[' :: (newLine (level + 1) ++ (prettyChars (level + 1) x ++ prettyItems level xs))
  | .object [] => ['\x7b', '\x7d']
  | .object ((k, x) :: xs) =>
    '\x7b' :: (newLine (level + 1) ++ (Literal.write k ++
      ':' :: ' ' :: (prettyChars (level + 1) x ++ prettyMembers level xs)))

/-- The items after the first, and the closing bracket on a line of its own. -/
def prettyItems (level : Nat) : List Json → List Char
  | [] => newLine level ++ [']']
  | x :: xs =>
    ',' :: (newLine (level + 1) ++ (prettyChars (level + 1) x ++ prettyItems level xs))

/-- The members after the first, and the closing brace on a line of its own. -/
def prettyMembers (level : Nat) : List (String × Json) → List Char
  | [] => newLine level ++ ['\x7d']
  | (k, x) :: xs =>
    ',' :: (newLine (level + 1) ++ (Literal.write k ++
      ':' :: ' ' :: (prettyChars (level + 1) x ++ prettyMembers level xs)))

end

/-- The **indented text** of a value. -/
def pretty (j : Json) : String := String.ofList (j.prettyChars 0)

end Json

end CallGate

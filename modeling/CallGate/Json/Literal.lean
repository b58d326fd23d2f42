import CallGate.Text.Quoted

/-!
# String literals

How a text is written between quotes in a JSON text, and how it is read back. Writing
escapes the quote, the backslash and the control characters below the space, and nothing
else. Reading knows every escape of the grammar; an escape may name half of a surrogate
pair, so a literal is first read into code units and only then, in `Literal.text?`, into
characters: a half without its other half makes the literal meaningless.
-/

namespace CallGate.Literal

/-! ### Writing -/

/-- How one character is written. -/
def escape (c : Char) : List Char :=
  if c = '"' then ['\\', '"']
  else if c = '\\' then ['\\', '\\']
  else if c.toNat = 8 then ['\\', 'b']
  else if c = '\t' then ['\\', 't']
  else if c = '\n' then ['\\', 'n']
  else if c.toNat = 12 then ['\\', 'f']
  else if c = '\r' then ['\\', 'r']
  else if c.toNat < 32 then
    ['\\', 'u', '0', '0', Text.hexDigit (c.toNat / 16), Text.hexDigit (c.toNat % 16)]
  else [c]

/-- The literal of a text, quotes included. -/
def write (s : String) : List Char :=
  '"' :: (s.toList.flatMap escape ++ ['"'])

/-! ### Reading -/

/-- The code unit of four hexadecimal digits. -/
def hexUnit? (a b c d : Char) : Option Nat := do
  let a ← Text.hexValue? a
  let b ← Text.hexValue? b
  let c ← Text.hexValue? c
  let d ← Text.hexValue? d
  return ((a * 16 + b) * 16 + c) * 16 + d

/-- The code unit of a one-letter escape. -/
def shortEscape? : Char → Option Nat
  | '"' => some 0x22
  | '\\' => some 0x5C
  | '/' => some 0x2F
  | 'b' => some 0x08
  | 'f' => some 0x0C
  | 'n' => some 0x0A
  | 'r' => some 0x0D
  | 't' => some 0x09
  | _ => none

/-- The code units up to the closing quote, and what follows it. A control character below
the space may only stand there escaped. -/
def readUnits : List Char → Option (List Nat × List Char)
  | [] => none
  | '"' :: rest => some ([], rest)
  | '\\' :: 'u' :: a :: b :: c :: d :: rest => do
    let u ← hexUnit? a b c d
    let (us, rest) ← readUnits rest
    return (u :: us, rest)
  | '\\' :: e :: rest => do
    let u ← shortEscape? e
    let (us, rest) ← readUnits rest
    return (u :: us, rest)
  | c :: rest =>
    if c.toNat < 32 ∨ c = '\\' then none
    else do
      let (us, rest) ← readUnits rest
      return (c.toNat :: us, rest)

/-- The first half of a surrogate pair. -/
def isHighHalf (u : Nat) : Bool := 0xD800 ≤ u && u < 0xDC00

/-- The second half of a surrogate pair. -/
def isLowHalf (u : Nat) : Bool := 0xDC00 ≤ u && u < 0xE000

/-- The character of a surrogate pair. -/
def joinHalves (high low : Nat) : Char :=
  Char.ofNat (0x10000 + (high - 0xD800) * 0x400 + (low - 0xDC00))

/-- The characters of code units; none when a half of a pair stands alone. -/
def chars? : List Nat → Option (List Char)
  | [] => some []
  | [u] => if isHighHalf u || isLowHalf u then none else some [Char.ofNat u]
  | u :: v :: rest =>
    if isHighHalf u then
      if isLowHalf v then (chars? rest).map (joinHalves u v :: ·) else none
    else if isLowHalf u then none
    else (chars? (v :: rest)).map (Char.ofNat u :: ·)

/-- The **text of a literal**, if it means one. -/
def text? (units : List Nat) : Option String :=
  (chars? units).map String.ofList

end CallGate.Literal

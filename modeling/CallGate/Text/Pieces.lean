/-!
# Pieces and lines

A text is cut at every occurrence of a separator; `pieces` are what stands between the cuts,
so there is one piece more than there are separators. `lines` are the pieces between line
feeds, each without the carriage return at its end.
-/

namespace CallGate.Text

/-- The **pieces** of a text between the occurrences of a separator. -/
def pieces (separator : Char) : List Char → List (List Char)
  | [] => [[]]
  | c :: cs =>
    if c = separator then [] :: pieces separator cs
    else (pieces separator cs).modifyHead (c :: ·)

/-- A line without the carriage return that belongs to its line break. -/
def dropReturn (cs : List Char) : List Char :=
  if cs.getLast? = some '\r' then cs.dropLast else cs

/-- The **lines** of a text. -/
def lines (s : String) : List String :=
  (pieces '\n' s.toList).map fun piece => String.ofList (dropReturn piece)

end CallGate.Text

import CallGate.Json.Tree

/-!
# Reading records

A record is written as an object and may also be written as the array of its fields in
order. `Tree.fields?` brings both forms down to one list, an entry per field, empty where a
field is not given; what a field holds is read only after that. In the object form the
members may come in any order and members that are no fields are ignored unread; a field
given twice makes the text no record. In the array form trailing fields may be missing and
surplus items are refused.

A closed choice is written as its name, or as an object that maps that one name to null.
-/

namespace CallGate.Tree

/-! ### Fields -/

/-- The one member of a name, if there is one; a name given twice is refused. -/
def field? (members : List (Option String × Tree)) (name : String) : Option (Option Tree) :=
  match members.filter fun m => m.1 == some name with
  | [] => some none
  | [m] => some (some m.2)
  | _ => none

/-- The **fields of a record** by name or by position. -/
def fields? (names : List String) : Tree → Option (List (Option Tree))
  | .object members =>
    if members.all (·.1.isSome) then names.mapM (field? members) else none
  | .array items =>
    if items.length ≤ names.length then
      some (items.map some ++ List.replicate (names.length - items.length) none)
    else none
  | _ => none

/-- A field that has to be given. -/
def required {α : Type} (read : Tree → Option α) (field : Option Tree) : Option α :=
  field.bind read

/-- A field that stands for a default where it is not given. -/
def defaulted {α : Type} (default : α) (read : Tree → Option α) : Option Tree → Option α
  | some t => read t
  | none => some default

/-! ### What a field holds -/

/-- A text. -/
def text? : Tree → Option String
  | .string s => s
  | _ => none

/-- A text, or null for none. -/
def optionalText? : Tree → Option (Option String)
  | .null => some none
  | .string s => s.map some
  | _ => none

/-- A truth value. -/
def flag? : Tree → Option Bool
  | .bool b => some b
  | _ => none

/-- An unsigned 64-bit integer; a double is none, whatever its value. -/
def word? : Tree → Option UInt64
  | .number (some (.int n)) =>
    if 0 ≤ n ∧ n < UInt64.size then some (UInt64.ofNat n.toNat) else none
  | _ => none

/-- A list of texts. -/
def texts? : Tree → Option (List String)
  | .array items => items.mapM text?
  | _ => none

/-- The name of a choice. -/
def choiceName? : Tree → Option String
  | .string s => s
  | .object [(k, .null)] => k
  | _ => none

/-- The member of a closed choice whose name a tree gives. -/
def choice? {α : Type} (name : α → String) (all : List α) (t : Tree) : Option α :=
  t.choiceName?.bind fun n => all.find? fun a => name a == n

end CallGate.Tree

import CallGate.Json.Printer
import CallGate.Json.Record

/-!
# Written forms

A type whose values travel as JSON texts has a `Form`: how a value is written, and how one
is read from the tree of a text.

* `Form.text` — the compact text of a value.
* `Form.decode?` — the value of a text.
-/

namespace CallGate

/-- The **written form** of a type. -/
structure Form (α : Type) where
  write : α → Json
  read? : Tree → Option α

namespace Form

/-- The **text** of a value, without blanks. -/
def text {α : Type} (f : Form α) (a : α) : String := (f.write a).compact

/-- **Decodes** a text: it has to be a JSON text, and its tree that of a value. -/
def decode? {α : Type} (f : Form α) (s : String) : Option α :=
  (Tree.parse? s).bind f.read?

/-- The form of a closed choice: the name of the member. -/
def choice {α : Type} (name : α → String) (all : List α) : Form α where
  write a := .string (name a)
  read? t := t.choice? name all

end Form

end CallGate

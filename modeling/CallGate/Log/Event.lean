import CallGate.Text.Quoted

/-!
# Log events

What the gate reports about its work. An event has a level, the name of the part that
emitted it, a message and named fields; nothing in this library writes one anywhere, every
operation returns the events it emits in order.
-/

namespace CallGate.Log

/-- The **levels**, the most talkative first. -/
inductive Level where
  | trace
  | debug
  | info
  | warn
  | error
deriving DecidableEq, Repr

/-- The name of a level in the text of an event. -/
def Level.name : Level → String
  | .trace => "TRACE"
  | .debug => "DEBUG"
  | .info => "INFO"
  | .warn => "WARN"
  | .error => "ERROR"

/-- How talkative a level is, from one for errors to five for traces. -/
def Level.rank : Level → Nat
  | .error => 1
  | .warn => 2
  | .info => 3
  | .debug => 4
  | .trace => 5

/-- What a field of an event holds. A *shown* text is written as it is, a *quoted* one
between quotes. -/
inductive Field where
  | shown (value : String)
  | quoted (value : String)
  | flag (value : Bool)
deriving DecidableEq, Repr

/-- An **event**. -/
structure Event where
  level : Level
  target : String
  message : String
  fields : List (String × Field)
deriving DecidableEq, Repr

/-- An event without fields. -/
def Event.plain (level : Level) (target message : String) : Event :=
  ⟨level, target, message, []⟩

/-! ### The parts that emit events -/

/-- The program as a whole. -/
def program : String := "modelgate"

/-- The clients and the calls they submit. -/
def client : String := "modelgate::client"

/-- Authentication, authorization and access checks. -/
def security : String := "modelgate::security"

/-- Reports of the controller. -/
def controller : String := "modelgate::controller"

/-! ### Text -/

/-- The characters that steer a terminal: five ASCII controls and the second control block.
A line break is none of them. -/
def steersTerminal (c : Char) : Bool :=
  c.toNat = 0x07 || c.toNat = 0x08 || c.toNat = 0x0C || c.toNat = 0x1B || c.toNat = 0x7F ||
    (0x80 ≤ c.toNat && c.toNat ≤ 0x9F)

/-- A message with the steering characters written as escapes. -/
def harmless (message : String) : String :=
  String.ofList (message.toList.flatMap fun c =>
    if !steersTerminal c then [c]
    else if c.toNat < 0x80 then '\\' :: 'x' :: Text.fixedHex 2 c.toNat
    else ['\\', 'u', '\x7b'] ++ Text.hexDigits c.toNat ++ ['\x7d'])

/-- A field in the text of an event. -/
def Field.render : Field → String
  | .shown value => value
  | .quoted value => Text.quoted value
  | .flag true => "true"
  | .flag false => "false"

/-- The **text of an event**: level, target, message, and the fields after it. It has more
than one line if the message has. -/
def Event.text (e : Event) : String :=
  e.fields.foldl (fun line f => line ++ " " ++ f.1 ++ "=" ++ f.2.render)
    (e.level.name ++ " " ++ e.target ++ ": " ++ harmless e.message)

end CallGate.Log

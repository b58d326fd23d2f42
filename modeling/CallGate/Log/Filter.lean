import CallGate.Log.Event
import CallGate.Pattern
import CallGate.Text.Bytes
import CallGate.Text.Pieces
import CallGate.Text.Real
import CallGate.Text.Unsigned

/-!
# Log filters

A filter is a list of directives separated by commas. A directive is a threshold for every
target (`info`), a target all of whose events pass (`modelgate::client`), or a target with
a threshold (`modelgate=debug`). Brackets after the target, or instead of it, narrow a
directive down to the events with a certain field, or to what happens within a span; the
value of a field may be asked for by a number or a pattern, which has to be sound. A filter
that is not written so is unreadable; one whose parts would begin or end within a character
is torn, which only blanks before a directive can bring about.

The directive that decides about an event is the one whose target is the longest beginning
of the event's target, and of those the one that asks for a field; of two directives that
ask for the same the later one counts. An event that no directive speaks about does not
pass. A filter without any directive lets errors pass.

* `threshold?` — the names `off`, `error`, …, `trace` in any case, or the digits 0 to 5.
* `Directive.parse`, `Filter.parse` — reading.
* `Filter.passes` — the decision.
-/

namespace CallGate.Log

/-- What a directive is **about**: the events that have certain fields, or what happens
within spans. Nothing here opens a span, so that a directive about spans speaks of no event. -/
inductive Subject where
  | events (fields : List String)
  | spans
deriving DecidableEq, Repr

/-- A **directive**: how talkative the events of a target may be. -/
structure Directive where
  target : Option String
  subject : Subject
  threshold : Nat
deriving DecidableEq, Repr

/-! ### Reading -/

/-- A **flaw** of a filter: it is not written as one, or a part of it would have to be cut out
of the middle of a character. -/
inductive Flaw where
  | unreadable
  | torn
deriving DecidableEq, Repr

/-- A part that can be cut out, or else a tear. -/
def Flaw.orTorn {α : Type} : Option α → Except Flaw α
  | some a => .ok a
  | none => .error .torn

/-- A part that can be read, or else what is unreadable. -/
def Flaw.orUnreadable {α : Type} : Option α → Except Flaw α
  | some a => .ok a
  | none => .error .unreadable

/-- The threshold that lets nothing pass. -/
def offThreshold : Nat := 0

/-- A threshold by name or by number; the empty name stands for errors. -/
def threshold? (s : String) : Option Nat :=
  match Text.count? s.toList with
  | some n => if n.toNat ≤ Level.trace.rank then some n.toNat else none
  | none =>
    match Text.lowerAscii s with
    | "" | "error" => some Level.error.rank
    | "warn" => some Level.warn.rank
    | "info" => some Level.info.rank
    | "debug" => some Level.debug.rank
    | "trace" => some Level.trace.rank
    | "off" => some offThreshold
    | _ => none

/-- The threshold after an equality sign; nothing there lets everything pass. -/
def thresholdAfter? : List Char → Option Nat
  | [] => some Level.trace.rank
  | level => threshold? (String.ofList level)

/-- The characters a directive may start with: letters and digits of any script, the marks
of a path, and the bracket. -/
def startsDirective (c : Char) : Bool :=
  Text.isAlphanumeric c || c = '-' || c = ':' || c = '_' || c = '['

/-- What may be asked of the **value** of a field: a real number, or a pattern. -/
def isAskable (value : List Char) : Bool :=
  Text.isReal value || Pattern.isSound value

/-- What a directive with a field is about. The field has a name, and after an equality sign
what is asked of its value; a further sign ends that. A field by itself asks for events that
have it; a span, or a field with a value, makes the directive one about spans. -/
def Subject.ofField (span field : List Char) : Except Flaw Subject :=
  if field.isEmpty then .error .unreadable
  else
    match Text.pieces '=' field with
    | _ :: value :: _ => if isAskable value then .ok .spans else .error .unreadable
    | _ => .ok (if span.isEmpty then .events [String.ofList field] else .spans)

/-- Reads what stands in **brackets**: the name of a span, or a name that may be empty and a
field in braces. `cut n cs` is the part of the directive of the size of `cs` that starts after
`n` bytes, `start` is the place after the opening bracket, and `inner` what stands there.
Gives what the brackets are about, and what comes after the closing one. -/
def readBrackets (cut : Nat → List Char → Except Flaw (List Char)) (start : Nat)
    (inner : List Char) : Except Flaw (Subject × List Char) := do
  let span := inner.takeWhile fun c => c ≠ ']' && c ≠ '\x7b'
  match inner.drop span.length with
  | [] => .error .unreadable
  | ']' :: rest => do
    let _ ← cut start span
    return (.spans, rest)
  | _ :: inner => do
    let name ← cut start span
    let field := inner.takeWhile (· ≠ '\x7d')
    match inner.drop field.length with
    | [] => .error .unreadable
    | _ :: rest => do
      let subject ← Subject.ofField name (← cut (start + Text.byteSize span + 1) field)
      match rest with
      | ']' :: rest => return (subject, rest)
      | _ => .error .unreadable

/-- Reads a **directive**. Blanks at its ends are passed over to find the places where its
parts begin and end; the parts themselves are cut at these places from the text with its
blanks. So a directive without blanks in front has the parts one sees, blanks at the end
belong to its threshold or, if there is none, to its target, and blanks in front move every
part towards the front. -/
def Directive.parse (cs : List Char) : Except Flaw Directive :=
  let body := Text.trimChars cs
  let cut (start : Nat) (part : List Char) : Except Flaw (List Char) :=
    Flaw.orTorn (Text.sliceBytes? start (Text.byteSize part) cs)
  let thresholdAfter (rest : List Char) : Except Flaw Nat := do
    let level ← Flaw.orTorn (Text.dropBytes? (Text.byteSize body - Text.byteSize rest) cs)
    Flaw.orUnreadable (thresholdAfter? level)
  if !body.head?.any startsDirective then .error .unreadable
  else
    let start := body.takeWhile fun c => c ≠ '=' && c ≠ '['
    let target : Except Flaw (Option String) := do
      let part ← cut 0 start
      return if part.isEmpty then none else some (String.ofList part)
    match body.drop start.length with
    | [] =>
      match threshold? (String.ofList cs) with
      | some n => return ⟨none, .events [], n⟩
      | none => return ⟨some (String.ofList cs), .events [], Level.trace.rank⟩
    | '=' :: rest => do
      let target ← target
      return ⟨target, .events [], ← thresholdAfter rest⟩
    | _ :: inner => do
      let target ← target
      let (subject, rest) ← readBrackets cut (Text.byteSize start + 1) inner
      match rest with
      | [] => return ⟨target, subject, Level.trace.rank⟩
      | '=' :: rest => return ⟨target, subject, ← thresholdAfter rest⟩
      | _ => .error .unreadable

/-- A **filter**: its directives in order. -/
structure Filter where
  directives : List Directive
deriving DecidableEq, Repr

/-- The filter that lets errors pass. -/
def Filter.errorsOnly : Filter := ⟨[⟨none, .events [], Level.error.rank⟩]⟩

/-- Reads a **filter**; empty pieces are skipped, and the first flaw counts. -/
def Filter.parse (s : String) : Except Flaw Filter := do
  match ← ((Text.pieces ',' s.toList).filter fun p => !p.isEmpty).mapM Directive.parse with
  | [] => return .errorsOnly
  | directives => return ⟨directives⟩

/-! ### Deciding -/

/-- Whether an event has a **field** of a name; the message is one. -/
def Event.hasField (e : Event) (name : String) : Bool :=
  name == "message" || e.fields.any fun f => f.1 == name

/-- Whether a directive **speaks of** an event. -/
def Directive.speaksOf (d : Directive) (e : Event) : Bool :=
  (d.target.all fun t => t.toList.isPrefixOf e.target.toList) &&
    match d.subject with
    | .events fields => fields.all e.hasField
    | .spans => false

/-- How **specific** a directive is: the length of its target, and the fields it asks for. -/
def Directive.specificity (d : Directive) : Nat × List String :=
  ((d.target.map fun t => t.length + 1).getD 0,
    match d.subject with
    | .events fields => fields
    | .spans => [])

/-- Whether a directive **yields** to a later one: the later one is as specific, or more. -/
def Directive.yieldsTo (d later : Directive) : Bool :=
  let (n, fields) := d.specificity
  let (m, others) := later.specificity
  n < m || (n == m && !decide (others < fields))

/-- The directive that **decides** about an event, if any speaks of it. -/
def Filter.deciding? (f : Filter) (e : Event) : Option Directive :=
  (f.directives.filter fun d => d.speaksOf e).foldl (fun best d =>
    match best with
    | some b => if b.yieldsTo d then some d else some b
    | none => some d) none

/-- Whether an event **passes** a filter. -/
def Filter.passes (f : Filter) (e : Event) : Bool :=
  (f.deciding? e).any fun d => e.level.rank ≤ d.threshold

end CallGate.Log

import CallGate.Access
import CallGate.Call.Execution
import CallGate.Json.Printer
import CallGate.Log.Filter

/-!
# The command line

The program runs one operation, given as a JSON text, through a client whose controller
echoes what it was given: the request, its id, the boundary marker and the user. It prints
its log, as far as the filter lets it pass, and then the response.

* `parseArguments` — the arguments.
* `Controller.echo` — the controller.
* `CommandLine.runOn` — everything between the arguments and the printed text, on any
  controller; `CommandLine.run` — on the one that echoes.
-/

namespace CallGate

/-- The controller that **echoes** its invocation. -/
def Controller.echo (requestText : RequestId → String) : Controller where
  execute invocation _ :=
    let operation := invocation.operation
    let context := invocation.context
    ⟨[⟨.info, "executing " ++ operation.name.getD "<unnamed>"⟩],
      .returned (.success (.object
        [("in-vm", .bool context.inside),
         ("request", operation.node),
         ("request-id", .string (requestText context.request)),
         ("user", .ofText? context.user)]))⟩

namespace CommandLine

/-- What the program is **given**. -/
structure Input where
  arguments : List String
  lookup : String → Option String
  /-- The text of the id that the request will have. -/
  requestId : String

/-- How the program **fails**: with a complaint, or broken off, because a part of the log
filter would begin or end within a character, or because there is no worker pool of the size
that is asked for. -/
inductive Failure where
  | complaint (text : String)
  | tornFilter
  | poolTooLarge
deriving DecidableEq, Repr

/-- The exit code of a failure. -/
def Failure.exitCode : Failure → Nat
  | .complaint _ => 1
  | .tornFilter => 101
  | .poolTooLarge => 101

/-- What a failure says; what breaks the program off is told after an empty line. -/
def Failure.text : Failure → String
  | .complaint text => "Error: " ++ text
  | .tornFilter => "\na part of the log filter would begin or end within a character"
  | .poolTooLarge => "\nthe worker pool would have too many threads"

/-- What the program **does**: the events it logs, as texts, and then a response or a
failure. -/
structure Output where
  log : List String
  answer : Except Failure String
deriving Repr

/-- The **lines** of the log; an event whose message has line breaks takes several. -/
def Output.logLines (output : Output) : List String :=
  output.log.flatMap Text.lines

/-- The argument that asks for a super-user client, wherever it stands. -/
def superUserFlag : String := "--super-user"

/-- The **arguments**: whether the flag is among them, and the last of the others. -/
def parseArguments (arguments : List String) : Bool × Option String :=
  (arguments.contains superUserFlag, (arguments.filter (· != superUserFlag)).getLast?)

/-- The variable of the log filter that programs of a host share. It goes before the
configured filter, unless it cannot be read. -/
def sharedLogVariable : String := "RUST_LOG"

/-- The log filter of an environment. -/
def filter (lookup : String → Option String) (config : Config) : Except Log.Flaw Log.Filter :=
  match (lookup sharedLogVariable).map Log.Filter.parse with
  | none => Log.Filter.parse config.logFilter
  | some (.error .unreadable) => Log.Filter.parse config.logFilter
  | some shared => shared

/-- The failure for want of an operation. -/
def Failure.usage : Failure := .complaint "usage: modelgate [--super-user] '<operation json>'"

/-- The failure on an operation that cannot be read. -/
def Failure.unreadableOperation : Failure := .complaint "operation is not valid JSON"

/-- The failure that a flaw of the log filter leads to. -/
def Failure.ofFlaw : Log.Flaw → Failure
  | .unreadable => .complaint "invalid log filter"
  | .torn => .tornFilter

/-- The event of the start. -/
def startedEvent (config : Config) (superUser : Bool) : Log.Event :=
  .plain .info Log.program
    ("modelgate starting: workers=" ++ String.ofList (decimalDigits config.workerThreads.toNat) ++
      ", thread_name='" ++ config.workerThreadName ++
      "', super_user=" ++ (if superUser then "true" else "false"))

/-- The text of an outcome, or the complaint about it. -/
def answer : Option (CallOutcome Reply) → Except String String
  | none => .error Fault.executorRejected.message
  | some outcome =>
    match outcome.result with
    | .ok (.document node) => .ok node.pretty
    | .ok (.full response) => .ok response.node.pretty
    | .error fault => .error fault.message

/-- Runs an **operation** on a controller: events in order, and the answer. -/
def execute (controller : Controller) (config : Config) (superUser : Bool) (node : Json) :
    List Log.Event × Except String String :=
  let factory := ({} : Factory Unit).withConfig config
  match (factory.create superUser true ()).1 with
  | (.error fault, events) => (events, .error fault.message)
  | (.ok client, events) =>
    match (client.submit (.anonymous Unit) .external ⟨node, none⟩ ()).1 with
    | .error fault => (events, .error fault.message)
    | .ok (dispatch, submitted) =>
      let (outcome, given) := dispatch.perform controller .document ⟨0⟩ ⟨0⟩
      (events ++ submitted ++ given.reports.flatMap MessageHandler.logging.handle,
        answer outcome)

/-- Runs the program **on a controller**. -/
def runOn (controller : Controller) (input : Input) : Output :=
  let config := Config.ofLookup input.lookup
  match filter input.lookup config with
  | .error flaw => ⟨[], .error (.ofFlaw flaw)⟩
  | .ok filter =>
    match parseArguments input.arguments with
    | (_, none) => ⟨[], .error .usage⟩
    | (superUser, some text) =>
      match Json.parse? text with
      | none => ⟨[], .error .unreadableOperation⟩
      | some node =>
        let (events, answer) :=
          if config.poolFits then
            let (events, answer) := execute controller config superUser node
            (events, answer.mapError Failure.complaint)
          else ([], .error .poolTooLarge)
        ⟨((startedEvent config superUser :: events).filter filter.passes).map Log.Event.text,
          answer⟩

/-- Runs the **program**, on the controller that echoes. -/
def run (input : Input) : Output := runOn (.echo fun _ => input.requestId) input

end CommandLine

end CallGate

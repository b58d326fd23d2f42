import CallGate.Main
import CallGate.Context.Walk
import CallGate.Lobby
import CallGate.Scenario.Step
import CallGate.Wire
import CallGate.Proofs.Flight.Outcome
import CallGate.Proofs.Flight.Progress
import CallGate.Proofs.Flight.Barrier
import CallGate.Proofs.Flight.Interruption
import CallGate.Proofs.Watch.Agreement
import CallGate.Proofs.Session.Step
import CallGate.Proofs.Session.Calls
import CallGate.Proofs.Session.Propagation
import CallGate.Proofs.Session.Elevation
import CallGate.Proofs.Client.Paths
import CallGate.Proofs.Login.Gates
import CallGate.Proofs.Login.Establishment
import CallGate.Proofs.Login.Certificates
import CallGate.Proofs.Login.Secrecy
import CallGate.Proofs.Watch.Deadline
import CallGate.Proofs.Session.Flags
import CallGate.Proofs.Session.Views
import CallGate.Proofs.Session.Interference
import CallGate.Proofs.Callback.Batch
import CallGate.Proofs.Flight.SelfCancel
import CallGate.Proofs.Wire.RoundTrip
import CallGate.Proofs.Wire.Fields
import CallGate.Proofs.Config.Environment
import CallGate.Proofs.Flight.Wakeups
import CallGate.Proofs.Session.Chronicle
import CallGate.Proofs.Context.Nesting
import CallGate.Proofs.Client.Creation
import CallGate.Proofs.CommandLine.Echo
import CallGate.Proofs.Crowd.Coupling

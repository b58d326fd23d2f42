import CallGate.CommandLine
import CallGate.Text.Uuid

/-!
# The program

Reads the arguments and the environment, runs the command line, and prints: log lines and
the response on standard output, a failure on standard error with its exit code.
-/

namespace CallGate

/-- The variables that the program looks at. -/
def variableNames : List String :=
  [CommandLine.sharedLogVariable, Config.threadsVariable, Config.nameVariable,
   Config.logVariable, Config.enforceVariable]

/-- The environment, as far as the program looks at it. -/
def readVariables : IO (List (String × Option String)) :=
  variableNames.mapM fun name => do return (name, ← IO.getEnv name)

/-- A random natural below `2 ^ 122`. -/
def randomBits : IO Nat := do
  let bytes ← IO.getRandomBytes 16
  return bytes.toList.foldl (fun n b => n * 256 + b.toNat) 0 % (1 <<< 122)

end CallGate

/-- The **entry point**. -/
def main (arguments : List String) : IO UInt32 := do
  let environment ← CallGate.readVariables
  let bits ← CallGate.randomBits
  let output := CallGate.CommandLine.run {
    arguments := arguments
    lookup := fun name => (environment.lookup name).join
    requestId := CallGate.Text.uuid4 bits }
  for text in output.log do
    IO.println text
  match output.answer with
  | .ok text =>
    IO.println text
    return 0
  | .error failure =>
    IO.eprintln failure.text
    return failure.exitCode.toUInt32

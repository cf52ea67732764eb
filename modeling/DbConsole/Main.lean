import DbConsole.Cli.Config
import DbConsole.Cli.Run
import DbConsole.Console.Run

/-!
The program: reads the command line, runs the command and prints what it shows. It is linked with no
transport, so every host counts as one that cannot be reached, and the token lives as long as the
program runs.
-/
set_option autoImplicit false

namespace DbConsole

/-- What the program leaves behind. -/
structure Ending where
  output : String
  complaint : String
  code : UInt32

namespace Ending

def ofFault (fault : UsageFault) : Ending :=
  if fault.isRequest then ⟨fault.message ++ "\n", "", 0⟩
  else ⟨"", "error: " ++ fault.message ++ "\n", 2⟩

def ofError (e : Error) : Ending :=
  ⟨"", "Error: " ++ e.message ++ "\n", 1⟩

/-- Runs the command that a configuration asks for. -/
def ofCommand (config : Config) (command : Command) : Ending :=
  match Console.ofConfig config (.memory none) with
  | .error e => ofError e
  | .ok console =>
    match (console.run ⟨[], [], false⟩ (command.run config.format)).2.2 with
    | some (.ok output) => ⟨output, "", 0⟩
    | some (.error e) => ofError e
    | none => ⟨"", "", 1⟩

/-- Runs the program. A command line without a command is answered like a call for help, but as a
mistake. -/
def ofArguments (env : Environment) (args : List String) : Ending :=
  match Config.ofArguments env args with
  | .error fault => ofFault fault
  | .ok config =>
    match config.command with
    | none => ⟨UsageFault.help.message ++ "\n", "", 2⟩
    | some command => ofCommand config command

end Ending

/-- The names of the variables that the program looks at. -/
def variableNames : List String :=
  (Level.program :: Verb.all.map Level.command).flatMap fun l =>
    l.parameters.filterMap (·.envName)

/-- The values that the environment gives to variables. -/
def readEnvironment (names : List String) : IO Environment := do
  let values ← names.mapM fun name => do return (name, ← IO.getEnv name)
  return fun name => (values.lookup name).join

end DbConsole

def main (args : List String) : IO UInt32 := do
  let env ← DbConsole.readEnvironment DbConsole.variableNames
  let ending := DbConsole.Ending.ofArguments env args
  IO.print ending.output
  IO.eprint ending.complaint
  return ending.code

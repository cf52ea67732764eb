import DbConsole.Backend
import DbConsole.Console.Reads

/-!
The console's tasks side by side before a backend.
-/
set_option autoImplicit false

namespace DbConsole.Console

/-- How the console's tasks run before an outside that answers requests: fetches that reads start
run on their own, and once all is quiet the collector takes its turn. -/
def systemBefore {E : Type} (submit : E → Request → E × Answer Reply) (R : Type) :
    System Console E Request Reply R where
  submit := submit
  started c :=
    let (fetches, c) := c.startedFetches
    (fetches.map fun t => t.bind fun _ => .done none, c)
  idle c := if c.collecting then { c with cache := c.cache.collect c.now } else c

def system (R : Type) : System Console Backend Request Reply R :=
  systemBefore Backend.submit R

/-- How many rounds the tasks are given to come to rest. -/
def rounds : Nat := 1000000

def settle {R : Type} (p : Pool Console Backend Request Reply R) :
    Pool Console Backend Request Reply R :=
  p.settle (system R) rounds

/-- Runs one task before the backend until everything is at rest. -/
def run {α : Type} (c : Console) (b : Backend) (t : ConsoleTask α) :
    Console × Backend × Option α :=
  let p := settle ((Pool.init c b).spawn "run" (t.bind fun a => .done (some a)))
  (p.state, p.world, p.result? "run")

end DbConsole.Console

import DbConsole.Task.Basic

/-!
Tasks side by side over one state, with a world outside that answers their questions. Each task in
turn runs until it has to wait; when none can go on, time moves to the next one that sleeps.
-/
set_option autoImplicit false

namespace DbConsole

/-- How the outside answers. -/
inductive Answer (A : Type) where
  | now (answer : A)
  /-- When the gate is opened. -/
  | behind (gate : String) (answer : A)
  | after (time : Nat) (answer : A)
  | never

/-- What a pool of tasks does with its state and with the world: the world's answer to a question,
the tasks that the state has had started, and what happens to the state when nothing else does. -/
structure System (σ E Q A R : Type) where
  submit : E → Q → E × Answer A
  started : σ → List (Task σ Q A (Option R)) × σ
  idle : σ → σ

/-- A task of a pool. -/
inductive Thread (σ Q A R : Type) where
  | ready (task : Task σ Q A (Option R))
  | held (gate : String) (task : Task σ Q A (Option R))
  | asleep (wakeAt : Nat) (task : Task σ Q A (Option R))
  | lost
  | ended (result : Option R)

structure Pool (σ E Q A R : Type) where
  state : σ
  world : E
  /-- Each task has a name, which is empty for those that nobody asks for. -/
  threads : List (String × Thread σ Q A R)
  clock : Nat
  openGates : List String

namespace Pool

variable {σ E Q A R : Type}

def init (state : σ) (world : E) : Pool σ E Q A R :=
  ⟨state, world, [], 0, []⟩

def spawn (p : Pool σ E Q A R) (name : String) (t : Task σ Q A (Option R)) : Pool σ E Q A R :=
  { p with threads := p.threads ++ [(name, .ready t)] }

/-- The gate stays open. -/
def release (p : Pool σ E Q A R) (gate : String) : Pool σ E Q A R :=
  { p with
    openGates := gate :: p.openGates
    threads := p.threads.map fun q =>
      match q.2 with
      | .held g t => if g = gate then (q.1, .ready t) else q
      | _ => q }

def cancel (p : Pool σ E Q A R) (name : String) : Pool σ E Q A R :=
  { p with threads := p.threads.filter (·.1 != name) }

/-- The result of the task, if it has come to one. -/
def result? (p : Pool σ E Q A R) (name : String) : Option R :=
  p.threads.findSome? fun q =>
    match q.2 with
    | .ended r => if q.1 = name then r else none
    | _ => none

/-- Where a task goes that has asked a question. -/
def answered (p : Pool σ E Q A R) (answer : Answer A) (next : A → Task σ Q A (Option R)) :
    Thread σ Q A R :=
  match answer with
  | .now a => .ready (next a)
  | .behind gate a => if p.openGates.contains gate then .ready (next a) else .held gate (next a)
  | .after time a => .asleep (p.clock + time) (next a)
  | .never => .lost

/-- Whether a task can go on in the state. -/
def canRun (s : σ) : Thread σ Q A R → Bool
  | .ready (.wait isReady _) => isReady s
  | .ready _ => true
  | _ => false

/-- The state as a turn leaves it, and the tasks that it has had started. -/
def proceed (sys : System σ E Q A R) (p : Pool σ E Q A R) (state : σ) : Pool σ E Q A R :=
  { p with
    state := (sys.started state).2
    threads := p.threads ++ (sys.started state).1.map fun t => ("", .ready t) }

/-- Where a task goes that runs no further, with what it asks asked. -/
def suspend (sys : System σ E Q A R) (p : Pool σ E Q A R) (t : Task σ Q A (Option R)) :
    Pool σ E Q A R × Thread σ Q A R :=
  match t with
  | .done r => (p, .ended r)
  | .call question next =>
    let asked := sys.submit p.world (question p.state)
    ({ p with world := asked.1 }, p.answered asked.2 next)
  | .sleep time next => (p, .asleep (p.clock + time) next)
  | t => (p, .ready t)

/-- Runs one task until it has to wait. -/
def runThread (sys : System σ E Q A R) (p : Pool σ E Q A R) (t : Task σ Q A (Option R)) :
    Pool σ E Q A R × Thread σ Q A R :=
  let (state, rest) := t.advance p.state
  (p.proceed sys state).suspend sys rest

def setThread (p : Pool σ E Q A R) (i : Nat) (t : Thread σ Q A R) : Pool σ E Q A R :=
  { p with threads := p.threads.modify i fun q => (q.1, t) }

/-- Gives the task at the place a turn; tells whether it could use it. -/
def stepAt (sys : System σ E Q A R) (p : Pool σ E Q A R) (i : Nat) : Pool σ E Q A R × Bool :=
  match p.threads[i]? with
  | some (_, .ready t) =>
    if canRun p.state (.ready t : Thread σ Q A R) then
      let (p, t') := p.runThread sys t
      (p.setThread i t', true)
    else (p, false)
  | _ => (p, false)

/-- Gives every task a turn. -/
def round (sys : System σ E Q A R) (p : Pool σ E Q A R) : Pool σ E Q A R × Bool :=
  (List.range p.threads.length).foldl (fun acc i =>
    let (p, moved) := acc.1.stepAt sys i
    (p, acc.2 || moved)) (p, false)

/-- The earliest time at which a sleeping task wakes. -/
def nextWake? (p : Pool σ E Q A R) : Option Nat :=
  (p.threads.filterMap fun q =>
    match q.2 with
    | .asleep t _ => some t
    | _ => none).min?

def wake (p : Pool σ E Q A R) (time : Nat) : Pool σ E Q A R :=
  { p with
    clock := time
    threads := p.threads.map fun q =>
      match q.2 with
      | .asleep t task => if t ≤ time then (q.1, .ready task) else q
      | _ => q }

/-- Forgets the tasks that have ended and that nobody asks for. -/
def tidy (p : Pool σ E Q A R) : Pool σ E Q A R :=
  { p with
    threads := p.threads.filter fun q =>
      match q.2 with
      | .ended _ => q.1 != ""
      | _ => true }

/-- Gives turns until nothing can move and nobody sleeps, at most so many rounds. -/
def settle (sys : System σ E Q A R) : Nat → Pool σ E Q A R → Pool σ E Q A R
  | 0, p => p
  | rounds + 1, p =>
    let (p', moved) := p.round sys
    if moved then settle sys rounds p'.tidy
    else
      match p'.nextWake? with
      | some time => settle sys rounds (p'.wake time)
      | none => { p' with state := sys.idle p'.state }

end Pool

end DbConsole

import DbConsole.Error

/-!
One entry of the cache: the value last fetched, how far it can be trusted, and the fetch that is on
its way for it.
-/
set_option autoImplicit false

namespace DbConsole

/-- How a read treats a value that is there. -/
inductive FetchPolicy where
  /-- An expired value is served while a new one is fetched behind it. -/
  | cached
  /-- Only a fetch that started after the latest invalidation will do. -/
  | fresh
  deriving DecidableEq

/-- The fetch that an entry waits for, and the generation of the entry that it was started for. -/
structure FlightMark where
  id : Nat
  generation : Nat
  deriving DecidableEq

structure Entry (V : Type) where
  value : Option V
  /-- When the value was stored. -/
  updatedAt : Option Nat
  invalidated : Bool
  /-- How often the entry was invalidated. -/
  generation : Nat
  flight : Option FlightMark
  lastError : Option Error
  /-- When the entry was last read. -/
  readAt : Nat

namespace Entry

variable {V : Type}

def blank (now : Nat) : Entry V :=
  ⟨none, none, false, 0, none, none, now⟩

def isFresh (e : Entry V) (now staleTime : Nat) : Bool :=
  !e.invalidated &&
    (match e.updatedAt with
    | some t => now - t < staleTime
    | none => false)

/-- The value, if it may be served at all. -/
def usable? (e : Entry V) : Option V :=
  if e.invalidated then none else e.value

/-- The fetch on its way that started after the latest invalidation. -/
def current? (e : Entry V) : Option Nat :=
  match e.flight with
  | some m => if m.generation = e.generation then some m.id else none
  | none => none

def invalidate (e : Entry V) : Entry V :=
  { e with invalidated := true, generation := e.generation + 1 }

/-- The entry after its fetch, started for the generation, has come to an end. A value that was
fetched for an earlier generation is stored but not trusted. -/
def landed (e : Entry V) (now generation : Nat) (outcome : Except Error V) : Entry V :=
  match outcome with
  | .ok v =>
    { e with
      value := some v
      updatedAt := some now
      invalidated := e.generation != generation
      flight := none
      lastError := none }
  | .error err => { e with flight := none, lastError := some err }

end Entry

end DbConsole

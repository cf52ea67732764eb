import DbConsole.Cache.Basic
import DbConsole.Task.Basic

/-!
Reading through the cache as a task, and the fetches behind it.
-/
set_option autoImplicit false

namespace DbConsole

/-- States that hold a cache and know the time. -/
class HasCache (σ : Type) (V J : outParam Type) where
  cache : σ → Cache V J
  setCache : σ → Cache V J → σ
  now : σ → Nat

namespace Cache

variable {σ Q A V J α : Type} [HasCache σ V J]

def change (f : Cache V J → Cache V J) (s : σ) : σ :=
  HasCache.setCache s (f (HasCache.cache s))

/-- A value as one of the reader's kind. -/
def ofKind (key : Key) (cast : V → Option α) (v : V) : Except Error α :=
  match cast v with
  | some a => .ok a
  | none => .error (.decode (.mistyped key.display))

/-- Starts to read a key. -/
def startRead (key : Key) (policy : FetchPolicy) (job : J) : Task σ Q A (Reading V) := do
  Task.yield
  Task.turn fun s =>
    let r := (HasCache.cache s).read (HasCache.now s) key policy job
    (HasCache.setCache s r.1, r.2)

/-- What has come of a reading so far, as a value of the reader's kind. -/
def outcome? (key : Key) (cast : V → Option α) (reading : Reading V) (s : σ) :
    Option (Except Error α) :=
  match reading with
  | .served v => some (ofKind key cast v)
  | .awaiting flight =>
    ((HasCache.cache s).landing? flight).map fun brought => brought.bind (ofKind key cast)

/-- What comes of a reading, which is waited for. -/
def finishRead (key : Key) (cast : V → Option α) (reading : Reading V) :
    Task σ Q A (Except Error α) :=
  match reading with
  | .served v => .done (ofKind key cast v)
  | r => Task.until? (outcome? key cast r) (.error (.transport (.other "")))

/-- Reads a key through the cache. The value must be of the reader's kind. -/
def fetch (key : Key) (policy : FetchPolicy) (job : J) (cast : V → Option α) :
    Task σ Q A (Except Error α) := do
  finishRead key cast (← startRead key policy job)

/-- What has come of two readings so far; one failure is enough. -/
def both? {β : Type} :
    Option (Except Error α) → Option (Except Error β) → Option (Except Error (α × β))
  | some (.error e), _ => some (.error e)
  | _, some (.error e) => some (.error e)
  | some (.ok a), some (.ok b) => some (.ok (a, b))
  | _, _ => none

/-- Tries until the outcome is none that a repetition could change, or no repetition is left. -/
def attempts (attempt : Task σ Q A (Except Error V)) (delay : Nat) :
    Nat → Task σ Q A (Except Error V)
  | 0 => attempt
  | left + 1 => do
    match ← attempt with
    | .ok v => return .ok v
    | .error e =>
      if e.isRetryable then .sleep delay (attempts attempt delay left)
      else return .error e

/-- A fetch from its first attempt to its landing. -/
def fly (settings : CacheSettings) (f : Flight J) (attempt : Task σ Q A (Except Error V)) :
    Task σ Q A Unit := do
  let brought ← attempts attempt settings.retryDelay settings.retries
  Task.yield
  Task.change fun s => change (fun c => c.land (HasCache.now s) f brought) s

end Cache

end DbConsole

/-!
How long cached reads hold, and what can be wrong with a wish about it.
-/
set_option autoImplicit false

namespace DbConsole

/-- How long cached reads hold and how failed ones are repeated; times in milliseconds. -/
structure CacheSettings where
  staleTime : Nat
  gcTime : Nat
  retries : Nat
  retryDelay : Nat
  deriving DecidableEq

namespace CacheSettings

def defaultStaleSeconds : Nat := 300

def defaultGcSeconds : Nat := 1800

def defaultRetries : Nat := 1

def defaultRetryDelay : Nat := 1000

def maxRetries : Nat := 10

end CacheSettings

/-- Why options do not go together. -/
inductive BadOptions where
  | gcZero
  | gcBelowStale (gc stale : Nat)
  | tooManyRetries
  deriving DecidableEq

def BadOptions.message : BadOptions → String
  | .gcZero => "gc_time must be greater than 0"
  | .gcBelowStale gc stale =>
    "gc_time (" ++ toString gc ++ ") cannot be shorter than stale_time (" ++ toString stale ++ ")"
  | .tooManyRetries => "retry cannot exceed " ++ toString CacheSettings.maxRetries

end DbConsole

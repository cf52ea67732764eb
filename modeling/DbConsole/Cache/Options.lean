import DbConsole.Cache.Settings
import DbConsole.Wire.Basic

/-!
Timing of the cache as options that a person gives.
-/
set_option autoImplicit false

namespace DbConsole

open CacheSettings

structure CacheOptions where
  staleSeconds : Option UInt64
  gcSeconds : Option UInt64
  retries : Option UInt32
  retryDelay : Option UInt64
  deriving DecidableEq

namespace CacheOptions

def stale (o : CacheOptions) : Nat :=
  (o.staleSeconds.map UInt64.toNat).getD defaultStaleSeconds

def gc (o : CacheOptions) : Nat :=
  (o.gcSeconds.map UInt64.toNat).getD defaultGcSeconds

def retryCount (o : CacheOptions) : Nat :=
  (o.retries.map UInt32.toNat).getD defaultRetries

def delay (o : CacheOptions) : Nat :=
  (o.retryDelay.map UInt64.toNat).getD defaultRetryDelay

/-- Checks what is given; a time that is left to its default is not compared on its own. -/
def validate (o : CacheOptions) : Except BadOptions Unit := do
  match o.gcSeconds with
  | some gc =>
    if gc = 0 then .error .gcZero
    if gc.toNat < o.stale then .error (.gcBelowStale gc.toNat o.stale)
  | none => pure ()
  match o.retries with
  | some n => if maxRetries < n.toNat then .error .tooManyRetries
  | none => pure ()

def settings (o : CacheOptions) : CacheSettings :=
  ⟨1000 * o.stale, 1000 * o.gc, o.retryCount, o.delay⟩

end CacheOptions

open Json in
instance : Wire CacheOptions where
  shape := .record "CacheOptions"
    (.cons "stale_time_secs" (.natural 64) (.nullable false false)
    (.cons "gc_time_secs" (.natural 64) (.nullable false false)
    (.cons "retry" (.natural 32) (.nullable false false)
    (.cons "retry_delay_ms" (.natural 64) (.nullable false false) .nil))))
  toValue o := (o.staleSeconds.map UInt64.toFin, o.gcSeconds.map UInt64.toFin,
    o.retries.map UInt32.toFin, o.retryDelay.map UInt64.toFin, ())
  ofValue
    | (staleSeconds, gcSeconds, retries, retryDelay, ()) =>
      ⟨staleSeconds.map UInt64.ofFin, gcSeconds.map UInt64.ofFin, retries.map UInt32.ofFin,
        retryDelay.map UInt64.ofFin⟩

end DbConsole

import DbConsole.Cache.Entry
import DbConsole.Cache.Settings
import DbConsole.Cache.Plan

/-!
The cache of reads. An entry has at most one fetch on its way that may still be recorded; readers
of the same entry share it. A fetch runs on its own: a read only lets it depart, and what it brings
is recorded when it lands, unless the entry is gone or waits for a later fetch by then.
-/
set_option autoImplicit false

namespace DbConsole

/-- A fetch: the key that it is for, the generation of the entry at its start, and the job that
tells how to fetch. -/
structure Flight (J : Type) where
  id : Nat
  key : Key
  generation : Nat
  job : J

structure Cache (V J : Type) where
  settings : CacheSettings
  /-- In the order in which the keys were first read. -/
  entries : List (Key × Entry V)
  nextFlight : Nat
  /-- Fetches that were started and that nobody has taken up yet. -/
  departures : List (Flight J)
  /-- What each fetch that has ended brought, for the readers that wait for it. -/
  landings : List (Nat × Except Error V)

/-- What a reader gets at once. -/
inductive Reading (V : Type) where
  | served (value : V)
  /-- The outcome of the fetch is the reader's. -/
  | awaiting (flight : Nat)

/-- The state of one entry, for display. -/
structure Snapshot where
  key : Key
  hasValue : Bool
  fresh : Bool
  invalidated : Bool
  fetching : Bool
  updated : Bool
  lastError : Option Error

namespace Cache

variable {V J : Type}

def empty (settings : CacheSettings) : Cache V J :=
  ⟨settings, [], 1, [], []⟩

def lookup? (c : Cache V J) (key : Key) : Option (Entry V) :=
  (c.entries.find? (·.1 == key)).map (·.2)

def setIn (key : Key) (e : Entry V) : List (Key × Entry V) → List (Key × Entry V)
  | [] => [(key, e)]
  | p :: rest => if p.1 = key then (key, e) :: rest else p :: setIn key e rest

def setEntry (c : Cache V J) (key : Key) (e : Entry V) : Cache V J :=
  { c with entries := setIn key e c.entries }

/-- Starts a fetch for the entry. -/
def depart (c : Cache V J) (key : Key) (e : Entry V) (job : J) : Cache V J :=
  { c.setEntry key { e with flight := some ⟨c.nextFlight, e.generation⟩ } with
    nextFlight := c.nextFlight + 1
    departures := c.departures ++ [⟨c.nextFlight, key, e.generation, job⟩] }

/-- The entry that a read finds, or makes. -/
def entryForRead (c : Cache V J) (now : Nat) (key : Key) : Entry V :=
  { (c.lookup? key).getD (Entry.blank now) with readAt := now }

/-- Reads a key. A fresh value is served; an expired one is served while a fetch runs; else the
reader waits for the fetch that is on its way for this generation, or for a new one. -/
def read (c : Cache V J) (now : Nat) (key : Key) (policy : FetchPolicy) (job : J) :
    Cache V J × Reading V :=
  let e := c.entryForRead now key
  match policy, e.usable?, e.current? with
  | .cached, some v, some _ => (c.setEntry key e, .served v)
  | .cached, some v, none =>
    if e.isFresh now c.settings.staleTime then (c.setEntry key e, .served v)
    else (c.depart key e job, .served v)
  | _, _, some id => (c.setEntry key e, .awaiting id)
  | _, _, none => (c.depart key e job, .awaiting c.nextFlight)

/-- Records what a fetch brought, unless its entry is gone or waits for another fetch. -/
def record (c : Cache V J) (now : Nat) (f : Flight J) (outcome : Except Error V) : Cache V J :=
  match c.lookup? f.key with
  | some e =>
    if e.flight.map (·.id) = some f.id then c.setEntry f.key (e.landed now f.generation outcome)
    else c
  | none => c

/-- Ends a fetch. Its readers get the outcome whether or not it is recorded. -/
def land (c : Cache V J) (now : Nat) (f : Flight J) (outcome : Except Error V) : Cache V J :=
  { c.record now f outcome with landings := (f.id, outcome) :: c.landings }

/-- What a fetch brought, once it has ended. -/
def landing? (c : Cache V J) (flight : Nat) : Option (Except Error V) :=
  (c.landings.find? (·.1 == flight)).map (·.2)

/-- The value of a key, however old. -/
def peek? (c : Cache V J) (key : Key) : Option V :=
  (c.lookup? key).bind (·.value)

def isCovered (filters : List Filter) (key : Key) : Bool :=
  filters.any (·.covers key)

def invalidate (c : Cache V J) (filters : List Filter) : Cache V J :=
  { c with
    entries := c.entries.map fun p => if isCovered filters p.1 then (p.1, p.2.invalidate) else p }

/-- How many entries the filters cover. -/
def coveredCount (c : Cache V J) (filters : List Filter) : Nat :=
  c.entries.countP fun p => isCovered filters p.1

def apply (c : Cache V J) (plan : Plan) : Cache V J :=
  c.invalidate plan.filters

/-- Forgets every entry; a fetch that is on its way will find none to record in. -/
def clear (c : Cache V J) : Cache V J :=
  { c with entries := [] }

/-- Whether an entry is still used: it is being fetched or was read within the time for that. -/
def isUsed (c : Cache V J) (now : Nat) (e : Entry V) : Bool :=
  e.flight.isSome || now - e.readAt < c.settings.gcTime

def collect (c : Cache V J) (now : Nat) : Cache V J :=
  { c with entries := c.entries.filter fun p => c.isUsed now p.2 }

def size (c : Cache V J) : Nat :=
  c.entries.length

def snapshot? (c : Cache V J) (now : Nat) (key : Key) : Option Snapshot :=
  (c.lookup? key).map fun e =>
    { key := key
      hasValue := e.value.isSome
      fresh := e.isFresh now c.settings.staleTime
      invalidated := e.invalidated
      fetching := e.flight.isSome
      updated := e.updatedAt.isSome
      lastError := e.lastError }

/-- The fetches that nobody has taken up yet are taken up. -/
def takeDepartures (c : Cache V J) : List (Flight J) × Cache V J :=
  (c.departures, { c with departures := [] })

end Cache

end DbConsole

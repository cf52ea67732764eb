import DbConsole.Proofs.Cache.Waiting

/-!
What a single read leaves in a cache. It makes or touches the entry of its key, and the fetch that
it may start may land there; nothing else changes, and nothing is trusted less than before.
-/
set_option autoImplicit false

namespace DbConsole.Cache

variable {V J : Type} {c c' : Cache V J} {key k : Key} {now finish : Nat} {job : J} {f g : Flight J}
  {outcome : Except Error V}

/-- How often the key has been invalidated since its entry was made. -/
def generationAt (c : Cache V J) (key : Key) : Nat :=
  (c.lookup? key).elim 0 Entry.generation

def isInvalidated (c : Cache V J) (key : Key) : Bool :=
  (c.lookup? key).any Entry.invalidated

/-- The entries are those of the cache, or a fetch that has departed from it has landed there. -/
def LandedAtMost (c : Cache V J) (entries : List (Key × Entry V)) : Prop :=
  entries = c.entries ∨
    ∃ f ∈ c.departures, ∃ now outcome, entries = (c.land now f outcome).entries

/-- The entries are those of the cache, but for what one read of the key makes of them. -/
def ReadAtMost (c : Cache V J) (key : Key) (job : J) (entries : List (Key × Entry V)) : Prop :=
  entries = c.entries ∨ ∃ now, LandedAtMost (c.read now key .cached job).1 entries

/-! ### Landings -/

theorem lookup?_congr (same : c'.entries = c.entries) (key : Key) :
    c'.lookup? key = c.lookup? key := by
  rw [lookup?, same, lookup?]

theorem entries_land_congr (same : c'.entries = c.entries) :
    (c'.land now f outcome).entries = (c.land now f outcome).entries := by
  change (c'.record now f outcome).entries = (c.record now f outcome).entries
  rw [record, record, lookup?_congr same]
  cases c.lookup? f.key with
  | none => exact same
  | some e =>
    dsimp only
    split
    · rw [setEntry, setEntry, same]
    · exact same

/-- A fetch that has landed makes no difference when it lands again. -/
theorem entries_land_land (finish : Nat) (outcome' : Except Error V) :
    ((c.land now f outcome).land finish f outcome').entries = (c.land now f outcome).entries := by
  change ((c.land now f outcome).record finish f outcome').entries = _
  rcases record_cases (c.land now f outcome) finish f outcome' with
    ⟨e, mark, found, held, mine, _⟩ | ⟨_, same⟩
  · exact absurd mine ((lookup?_land_of_flight c now f outcome f.key e mark found held).2 rfl)
  · rw [same]

theorem LandedAtMost.land {entries : List (Key × Entry V)}
    (landed : LandedAtMost c entries) (same : c'.entries = entries) (member : f ∈ c.departures)
    (only : ∀ g ∈ c.departures, g = f) :
    LandedAtMost c (c'.land finish f outcome).entries := by
  subst same
  rcases landed with same | ⟨g, departed, now, outcome', same⟩
  · exact Or.inr ⟨f, member, finish, outcome, entries_land_congr same⟩
  · obtain rfl := only g departed
    exact Or.inr ⟨g, member, now, outcome', (entries_land_congr same).trans
      (entries_land_land finish outcome)⟩

/-! ### One read -/

theorem takeDepartures_of_nil (none : c.departures = []) : c.takeDepartures.2 = c := by
  rw [takeDepartures, ← none]

/-- From a cache that no fetch has departed from, a read lets one fetch depart at most. -/
theorem departed_of_read {policy : FetchPolicy} (none : c.departures = [])
    (departed : f ∈ (c.read now key policy job).1.departures) :
    f = ⟨c.nextFlight, key, (c.entryForRead now key).generation, job⟩ ∧
      (c.read now key policy job).1 = c.depart key (c.entryForRead now key) job := by
  rcases read_cache c now key policy job with same | ⟨_, same⟩ <;> rw [same] at departed
  · change f ∈ c.departures at departed
    rw [none] at departed
    cases departed
  · change f ∈ c.departures ++ _ at departed
    rw [none, List.nil_append, List.mem_singleton] at departed
    exact ⟨departed, same⟩

theorem entryForRead_trust (c : Cache V J) (now : Nat) (key : Key) :
    (c.entryForRead now key).generation = c.generationAt key ∧
      (c.entryForRead now key).invalidated = c.isInvalidated key := by
  rw [entryForRead, generationAt, isInvalidated]
  cases c.lookup? key <;> exact ⟨rfl, rfl⟩

/-- The key is trusted no less than before. -/
def Trusting (c : Cache V J) (key : Key) (c' : Cache V J) : Prop :=
  c'.generationAt key = c.generationAt key ∧
    (c'.isInvalidated key = true → c.isInvalidated key = true)

theorem Trusting.of_lookup? (same : c'.lookup? key = c.lookup? key) : Trusting c key c' := by
  rw [Trusting, generationAt, isInvalidated, same]
  exact ⟨rfl, id⟩

theorem Trusting.of_entry {e : Entry V} (found : c'.lookup? key = some e)
    (generation : e.generation = c.generationAt key)
    (invalidated : e.invalidated = true → c.isInvalidated key = true) : Trusting c key c' := by
  rw [Trusting, generationAt, isInvalidated, found]
  exact ⟨generation, invalidated⟩

theorem Trusting.read (policy : FetchPolicy) :
    Trusting c key (c.read now key policy job).1 := by
  obtain ⟨generation, invalidated⟩ := c.entryForRead_trust now key
  obtain ⟨_, same⟩ := c.exists_lookup?_read_self now key policy job
  exact .of_entry same generation (invalidated ▸ id)

/-- A fetch that lands where it has just departed from brings what is trusted. -/
theorem Trusting.land_depart :
    Trusting c key ((c.depart key (c.entryForRead now key) job).land finish
      ⟨c.nextFlight, key, (c.entryForRead now key).generation, job⟩ outcome) := by
  obtain ⟨generation, invalidated⟩ := c.entryForRead_trust now key
  have waits := lookup?_depart_self c key (c.entryForRead now key) job
  refine .of_entry (lookup?_land_of_waiting _ finish _ outcome _ waits rfl) ?_ fun marked => ?_
  · cases outcome <;> exact generation
  · cases outcome with
    | error e => exact invalidated ▸ marked
    | ok v => exact absurd rfl (bne_iff_ne.mp marked)

namespace ReadAtMost

variable {entries : List (Key × Entry V)}

/-- The entries of all other keys are as they were. -/
theorem lookup?_eq (once : ReadAtMost c key job c'.entries) (none : c.departures = [])
    (apart : key ≠ k) : c'.lookup? k = c.lookup? k := by
  rcases once with same | ⟨now, same | ⟨f, departed, finish, outcome, same⟩⟩
  · exact lookup?_congr same k
  · rw [lookup?_congr same, lookup?_read_of_ne _ apart]
  · obtain ⟨rfl, _⟩ := departed_of_read none departed
    rw [lookup?_congr same, lookup?_land_of_apart _ _ _ _ _ fun _ _ mine => absurd mine.symm apart,
      lookup?_read_of_ne _ apart]

/-- No key has been invalidated. -/
theorem trusting (once : ReadAtMost c key job c'.entries) (none : c.departures = []) (k : Key) :
    Trusting c k c' := by
  by_cases here : key = k
  · subst here
    rcases once with same | ⟨now, same | ⟨f, departed, finish, outcome, same⟩⟩
    · exact .of_lookup? (lookup?_congr same key)
    · rw [Trusting, generationAt, isInvalidated, lookup?_congr same]
      exact Trusting.read .cached
    · obtain ⟨rfl, departs⟩ := departed_of_read none departed
      rw [departs] at same
      rw [Trusting, generationAt, isInvalidated, lookup?_congr same]
      exact Trusting.land_depart
  · exact .of_lookup? (once.lookup?_eq none here)

end ReadAtMost

end DbConsole.Cache

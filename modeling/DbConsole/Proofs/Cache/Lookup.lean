import DbConsole.Cache.Basic
import Mathlib.Data.List.Nodup

/-!
What each operation of the cache does to the entry of a key, seen through the two things that a
read can take from it: the value that may be served, and the fetch that may be waited for.
-/
set_option autoImplicit false

namespace DbConsole

variable {V J : Type}

namespace Entry

@[simp] theorem usable?_invalidate (e : Entry V) : e.invalidate.usable? = none := rfl

theorem current?_eq_some (e : Entry V) (id : Nat) :
    e.current? = some id ↔
      ∃ mark, e.flight = some mark ∧ mark.generation = e.generation ∧ mark.id = id := by
  unfold current?
  cases e.flight with
  | none => simp
  | some mark => by_cases same : mark.generation = e.generation <;> simp [same]

/-- What a landing leaves to be served: what was there before, or its own value if no invalidation
came in between. -/
theorem usable?_landed (e : Entry V) (now generation : Nat) (outcome : Except Error V) (v : V)
    (served : (e.landed now generation outcome).usable? = some v) :
    e.usable? = some v ∨ (e.generation = generation ∧ outcome = .ok v) := by
  cases outcome with
  | error err => exact Or.inl served
  | ok w =>
    by_cases same : e.generation = generation
    · have equal : w = v := by simpa [landed, usable?, same] using served
      exact Or.inr ⟨same, by rw [equal]⟩
    · simp [landed, usable?, same] at served

end Entry

namespace Cache

/-- The value of a key that a read may be served. -/
def trusted? (c : Cache V J) (key : Key) : Option V :=
  (c.lookup? key).bind Entry.usable?

/-- The fetch for a key that a read may wait for. -/
def underway? (c : Cache V J) (key : Key) : Option Nat :=
  (c.lookup? key).bind Entry.current?

/-! ### Entries -/

theorem find?_setIn (key k : Key) (e : Entry V) (entries : List (Key × Entry V)) :
    (setIn key e entries).find? (·.1 == k) =
      if key = k then some (key, e) else entries.find? (·.1 == k) := by
  induction entries with
  | nil => by_cases same : key = k <;> simp [setIn, same]
  | cons p rest ih =>
    by_cases here : p.1 = key
    · by_cases same : key = k <;> simp [setIn, here, same]
    · by_cases found : p.1 = k
      · have apart : key ≠ k := fun same => here (found.trans same.symm)
        have swapped : k ≠ key := apart.symm
        simp [setIn, found, apart, swapped]
      · simpa [setIn, here, found] using ih

theorem lookup?_setEntry (c : Cache V J) (key k : Key) (e : Entry V) :
    (c.setEntry key e).lookup? k = if key = k then some e else c.lookup? k := by
  unfold lookup? setEntry
  rw [find?_setIn]
  split <;> rfl

@[simp] theorem lookup?_setEntry_self (c : Cache V J) (key : Key) (e : Entry V) :
    (c.setEntry key e).lookup? key = some e := by
  simp [lookup?_setEntry]

theorem lookup?_setEntry_of_ne (c : Cache V J) (key k : Key) (e : Entry V) (apart : key ≠ k) :
    (c.setEntry key e).lookup? k = c.lookup? k := by
  simp [lookup?_setEntry, apart]

@[simp] theorem lookup?_depart_self (c : Cache V J) (key : Key) (e : Entry V) (job : J) :
    (c.depart key e job).lookup? key =
      some { e with flight := some ⟨c.nextFlight, e.generation⟩ } :=
  lookup?_setEntry_self c key _

theorem lookup?_depart_of_ne (c : Cache V J) (key k : Key) (e : Entry V) (job : J)
    (apart : key ≠ k) : (c.depart key e job).lookup? k = c.lookup? k :=
  lookup?_setEntry_of_ne c key k _ apart

theorem lookup?_invalidate (c : Cache V J) (filters : List Filter) (key : Key) :
    (c.invalidate filters).lookup? key =
      (c.lookup? key).map fun e => if isCovered filters key then e.invalidate else e := by
  unfold invalidate lookup?
  induction c.entries with
  | nil => rfl
  | cons p rest ih =>
    by_cases found : p.1 = key
    · subst found
      by_cases covered : isCovered filters p.1 <;> simp [covered]
    · have passed : (if isCovered filters p.1 then (p.1, p.2.invalidate) else p).1 = p.1 := by
        split <;> rfl
      simpa [passed, found] using ih

theorem find?_eq_of_mem (entries : List (Key × Entry V)) (once : (entries.map Prod.fst).Nodup)
    (p : Key × Entry V) (member : p ∈ entries) : entries.find? (·.1 == p.1) = some p := by
  cases found : entries.find? (·.1 == p.1) with
  | none => simpa using List.find?_eq_none.mp found p member
  | some q =>
    have same : q.1 = p.1 := by simpa using List.find?_some found
    exact congrArg some
      (List.inj_on_of_nodup_map once (List.mem_of_find?_eq_some found) member same)

theorem lookup?_of_mem {c : Cache V J} (once : (c.entries.map Prod.fst).Nodup) {key : Key} {e : Entry V}
    (mem : (key, e) ∈ c.entries) : c.lookup? key = some e := by
  rw [lookup?, find?_eq_of_mem c.entries once (key, e) mem]
  rfl

/-- An entry that a collection leaves is as it was. -/
theorem lookup?_collect (c : Cache V J) (now : Nat) (key : Key) (e : Entry V)
    (once : (c.entries.map Prod.fst).Nodup) (kept : (c.collect now).lookup? key = some e) :
    c.lookup? key = some e := by
  obtain ⟨p, found, rfl⟩ := Option.map_eq_some_iff.mp kept
  have same : p.1 = key := by simpa using List.find?_some found
  have member : p ∈ c.entries := List.mem_of_mem_filter (List.mem_of_find?_eq_some found)
  exact same ▸ lookup?_of_mem once member

/-! ### Reads -/

theorem usable?_entryForRead (c : Cache V J) (now : Nat) (key : Key) :
    (c.entryForRead now key).usable? = c.trusted? key := by
  unfold entryForRead trusted?
  cases c.lookup? key <;> rfl

theorem current?_entryForRead (c : Cache V J) (now : Nat) (key : Key) :
    (c.entryForRead now key).current? = c.underway? key := by
  unfold entryForRead underway?
  cases c.lookup? key <;> rfl

/-- All that a read can do: it serves a trusted value, and may let a fetch depart behind it; it
joins the fetch that is underway; or it lets one depart and waits for it. -/
theorem read_cases (c : Cache V J) (now : Nat) (key : Key) (policy : FetchPolicy) (job : J) :
    (∃ v, policy = .cached ∧ c.trusted? key = some v ∧
      (c.read now key policy job = (c.setEntry key (c.entryForRead now key), .served v) ∨
        c.underway? key = none ∧
          c.read now key policy job = (c.depart key (c.entryForRead now key) job, .served v))) ∨
    (∃ id, c.underway? key = some id ∧
      c.read now key policy job = (c.setEntry key (c.entryForRead now key), .awaiting id)) ∨
    (c.underway? key = none ∧
      c.read now key policy job =
        (c.depart key (c.entryForRead now key) job, .awaiting c.nextFlight)) := by
  rw [← usable?_entryForRead c now key, ← current?_entryForRead c now key]
  unfold read
  cases found : (c.entryForRead now key).current? with
  | some id =>
    cases policy with
    | fresh => exact Or.inr (Or.inl ⟨id, rfl, by simp [found]⟩)
    | cached =>
      cases value : (c.entryForRead now key).usable? with
      | none => exact Or.inr (Or.inl ⟨id, rfl, by simp [found, value]⟩)
      | some v => exact Or.inl ⟨v, rfl, rfl, Or.inl (by simp [found, value])⟩
  | none =>
    cases policy with
    | fresh => exact Or.inr (Or.inr ⟨rfl, by simp [found]⟩)
    | cached =>
      cases value : (c.entryForRead now key).usable? with
      | none => exact Or.inr (Or.inr ⟨rfl, by simp [found, value]⟩)
      | some v =>
        by_cases young : (c.entryForRead now key).isFresh now c.settings.staleTime
        · exact Or.inl ⟨v, rfl, rfl, Or.inl (by simp [found, value, young])⟩
        · exact Or.inl ⟨v, rfl, rfl, Or.inr ⟨rfl, by simp [found, value, young]⟩⟩

/-- What a read leaves behind: the entry with a new time, or with a new fetch for it. -/
theorem read_cache (c : Cache V J) (now : Nat) (key : Key) (policy : FetchPolicy) (job : J) :
    (c.read now key policy job).1 = c.setEntry key (c.entryForRead now key) ∨
    c.underway? key = none ∧
      (c.read now key policy job).1 = c.depart key (c.entryForRead now key) job := by
  rcases read_cases c now key policy job with ⟨v, _, _, same | ⟨idle, same⟩⟩ | ⟨id, _, same⟩ |
    ⟨idle, same⟩ <;> rw [same]
  · exact Or.inl rfl
  · exact Or.inr ⟨idle, rfl⟩
  · exact Or.inl rfl
  · exact Or.inr ⟨idle, rfl⟩

/-- A read leaves to its key the entry that it has found, at most with another fetch for it. -/
theorem exists_lookup?_read_self (c : Cache V J) (now : Nat) (key : Key) (policy : FetchPolicy)
    (job : J) : ∃ flight, (c.read now key policy job).1.lookup? key =
      some { c.entryForRead now key with flight := flight } := by
  rcases read_cache c now key policy job with same | ⟨_, same⟩ <;> rw [same]
  · exact ⟨_, lookup?_setEntry_self _ _ _⟩
  · exact ⟨_, lookup?_depart_self _ _ _ _⟩

theorem lookup?_read_of_ne {c : Cache V J} {now : Nat} {key k : Key} {job : J} (policy : FetchPolicy)
    (apart : key ≠ k) : (c.read now key policy job).1.lookup? k = c.lookup? k := by
  rcases read_cache c now key policy job with same | ⟨_, same⟩ <;> rw [same]
  · exact lookup?_setEntry_of_ne _ _ _ _ apart
  · exact lookup?_depart_of_ne _ _ _ _ _ apart

@[simp] theorem landings_read (c : Cache V J) (now : Nat) (key : Key) (policy : FetchPolicy) (job : J) :
    (c.read now key policy job).1.landings = c.landings := by
  rcases read_cache c now key policy job with same | ⟨_, same⟩ <;> rw [same] <;> rfl

end Cache

end DbConsole

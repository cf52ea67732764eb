import DbConsole.Proofs.Cache.Ledger

/-!
How the value that may be served and the fetch that may be joined come about: only a landing
brings a value, only a read brings a fetch, and an invalidation takes both away.
-/
set_option autoImplicit false

namespace DbConsole.Cache

variable {V J : Type} {c : Cache V J} {started : Set (Flight J)}

/-! ### Reads -/

@[simp] theorem trusted?_setEntry_entryForRead (c : Cache V J) (now : Nat) (key k : Key) :
    (c.setEntry key (c.entryForRead now key)).trusted? k = c.trusted? k := by
  by_cases same : key = k
  · subst same
    rw [trusted?, lookup?_setEntry_self]
    exact usable?_entryForRead c now key
  · rw [trusted?, lookup?_setEntry_of_ne c key k _ same, trusted?]

@[simp] theorem underway?_setEntry_entryForRead (c : Cache V J) (now : Nat) (key k : Key) :
    (c.setEntry key (c.entryForRead now key)).underway? k = c.underway? k := by
  by_cases same : key = k
  · subst same
    rw [underway?, lookup?_setEntry_self]
    exact current?_entryForRead c now key
  · rw [underway?, lookup?_setEntry_of_ne c key k _ same, underway?]

@[simp] theorem trusted?_depart_entryForRead (c : Cache V J) (now : Nat) (key k : Key) (job : J) :
    (c.depart key (c.entryForRead now key) job).trusted? k = c.trusted? k := by
  by_cases same : key = k
  · subst same
    rw [trusted?, lookup?_depart_self]
    exact usable?_entryForRead c now key
  · rw [trusted?, lookup?_depart_of_ne c key k _ job same, trusted?]

theorem underway?_depart_self (c : Cache V J) (key : Key) (e : Entry V) (job : J) :
    (c.depart key e job).underway? key = some c.nextFlight := by
  rw [underway?, lookup?_depart_self]
  simp [Entry.current?]

theorem underway?_depart_of_ne (c : Cache V J) (key k : Key) (e : Entry V) (job : J)
    (apart : key ≠ k) : (c.depart key e job).underway? k = c.underway? k := by
  rw [underway?, lookup?_depart_of_ne c key k e job apart, underway?]

/-- A read makes no value any better. -/
@[simp] theorem trusted?_read (c : Cache V J) (now : Nat) (key k : Key) (policy : FetchPolicy)
    (job : J) : (c.read now key policy job).1.trusted? k = c.trusted? k := by
  rcases read_cache c now key policy job with same | ⟨_, same⟩ <;> rw [same]
  · exact trusted?_setEntry_entryForRead c now key k
  · exact trusted?_depart_entryForRead c now key k job

/-- What can be joined behind a read could be joined before it, or departs with it. -/
theorem underway?_read (c : Cache V J) (now : Nat) (key k : Key) (policy : FetchPolicy) (job : J)
    (id : Nat) (found : (c.read now key policy job).1.underway? k = some id) :
    c.underway? k = some id ∨ id = c.nextFlight := by
  rcases read_cache c now key policy job with same | ⟨_, same⟩ <;> rw [same] at found
  · exact Or.inl (by simpa using found)
  · by_cases here : key = k
    · subst here
      rw [underway?_depart_self] at found
      exact Or.inr (Option.some.inj found).symm
    · rw [underway?_depart_of_ne c key k _ job here] at found
      exact Or.inl found

/-- Only a trusted value is served, and only where an older one would do. -/
theorem trusted?_of_served (c : Cache V J) (now : Nat) (key : Key) (policy : FetchPolicy) (job : J)
    (v : V) (served : (c.read now key policy job).2 = .served v) :
    policy = .cached ∧ c.trusted? key = some v := by
  rcases read_cases c now key policy job with ⟨w, cached, trusted, same | ⟨_, same⟩⟩ |
    ⟨id, _, same⟩ | ⟨_, same⟩ <;> rw [same] at served <;> cases served
  · exact ⟨cached, trusted⟩
  · exact ⟨cached, trusted⟩

/-- A reader who waits does so for the fetch that the read leaves underway. -/
theorem underway?_of_awaiting (c : Cache V J) (now : Nat) (key : Key) (policy : FetchPolicy)
    (job : J) (id : Nat) (waits : (c.read now key policy job).2 = .awaiting id) :
    (c.read now key policy job).1.underway? key = some id := by
  rcases read_cases c now key policy job with ⟨w, _, _, same | ⟨_, same⟩⟩ |
    ⟨joined, found, same⟩ | ⟨_, same⟩ <;> rw [same] at waits ⊢ <;> cases waits
  · simpa using found
  · exact underway?_depart_self c key _ job

theorem nextFlight_read (c : Cache V J) (now : Nat) (key : Key) (policy : FetchPolicy) (job : J) :
    ((c.read now key policy job).1.nextFlight = c.nextFlight ∧
      (c.read now key policy job).1.departures = c.departures) ∨
    ((c.read now key policy job).1.nextFlight = c.nextFlight + 1 ∧
      (c.read now key policy job).1.departures = c.departures ++
        [⟨c.nextFlight, key, (c.entryForRead now key).generation, job⟩]) := by
  rcases read_cache c now key policy job with same | ⟨_, same⟩ <;> rw [same]
  · exact Or.inl ⟨rfl, rfl⟩
  · exact Or.inr ⟨rfl, rfl⟩

@[simp] theorem landing?_read (c : Cache V J) (now : Nat) (key : Key) (policy : FetchPolicy)
    (job : J) (id : Nat) : (c.read now key policy job).1.landing? id = c.landing? id := by
  rw [landing?, landings_read, landing?]

/-! ### Landings -/

namespace Ledger

/-- A fetch that may be joined stands in the ledger, for this key, and has not landed. -/
theorem underway (ledger : Ledger c started) (key : Key) (id : Nat)
    (found : c.underway? key = some id) :
    c.landing? id = none ∧ ∃ f ∈ started, f.id = id ∧ f.key = key := by
  obtain ⟨e, entry, current⟩ := Option.bind_eq_some_iff.mp found
  obtain ⟨mark, held, _, same⟩ := (Entry.current?_eq_some e id).mp current
  obtain ⟨_, pending, f, member, sameId, sameKey, _⟩ := ledger.marked key e mark entry held
  rw [same] at pending sameId
  exact ⟨pending, f, member, sameId, sameKey⟩

/-- A landing makes a value trusted only if it was what a read would have waited for. -/
theorem trusted?_land (ledger : Ledger c started) (now : Nat) (f : Flight J) (member : f ∈ started)
    (outcome : Except Error V) (key : Key) (v : V)
    (found : (c.land now f outcome).trusted? key = some v) :
    c.trusted? key = some v ∨
      (f.key = key ∧ c.underway? key = some f.id ∧ outcome = .ok v) := by
  obtain ⟨e, found, usable⟩ := Option.bind_eq_some_iff.mp found
  rcases lookup?_land_cases found with ⟨before, _⟩ | ⟨rfl, old, mark, before, held, sameId, rfl⟩ <;>
    rw [trusted?, underway?, before]
  · exact Or.inl usable
  · refine (Entry.usable?_landed old now f.generation outcome v usable).imp_right ?_
    rintro ⟨current, brought⟩
    refine ⟨rfl, ?_, brought⟩
    obtain ⟨_, _, g, inStarted, isMark, _, generation⟩ := ledger.marked f.key old mark before held
    obtain rfl := ledger.unique g inStarted f member (isMark.trans sameId)
    exact (Entry.current?_eq_some old g.id).mpr
      ⟨mark, held, generation.symm.trans current.symm, sameId⟩

/-- Nothing can be joined behind an invalidation of its key. -/
theorem underway?_invalidate (ledger : Ledger c started) (filters : List Filter) (key : Key) :
    (c.invalidate filters).underway? key =
      if isCovered filters key then none else c.underway? key := by
  rw [underway?, lookup?_invalidate, underway?]
  cases entry : c.lookup? key with
  | none => simp
  | some e =>
    by_cases covered : isCovered filters key
    · simp only [covered, ↓reduceIte, Option.map_some, Option.bind_some]
      cases current : e.invalidate.current? with
      | none => rfl
      | some id =>
        obtain ⟨mark, held, generation, _⟩ := (Entry.current?_eq_some _ id).mp current
        have ordered := (ledger.marked key e mark entry held).1
        change mark.generation = e.generation + 1 at generation
        omega
    · simp [covered]

theorem trusted?_collect (ledger : Ledger c started) (now : Nat) (key : Key) (v : V)
    (found : (c.collect now).trusted? key = some v) : c.trusted? key = some v := by
  obtain ⟨e, entry, usable⟩ := Option.bind_eq_some_iff.mp found
  rw [trusted?, lookup?_collect c now key e ledger.once entry]
  exact usable

theorem underway?_collect (ledger : Ledger c started) (now : Nat) (key : Key) (id : Nat)
    (found : (c.collect now).underway? key = some id) : c.underway? key = some id := by
  obtain ⟨e, entry, current⟩ := Option.bind_eq_some_iff.mp found
  rw [underway?, lookup?_collect c now key e ledger.once entry]
  exact current

end Ledger

theorem underway?_land (c : Cache V J) (now : Nat) (f : Flight J) (outcome : Except Error V)
    (key : Key) (id : Nat) (found : (c.land now f outcome).underway? key = some id) :
    c.underway? key = some id := by
  obtain ⟨e, entry, current⟩ := Option.bind_eq_some_iff.mp found
  obtain ⟨mark, held, _, _⟩ := (Entry.current?_eq_some e id).mp current
  rw [underway?, (lookup?_land_of_flight c now f outcome key e mark entry held).1]
  exact current

theorem trusted?_invalidate (c : Cache V J) (filters : List Filter) (key : Key) :
    (c.invalidate filters).trusted? key =
      if isCovered filters key then none else c.trusted? key := by
  rw [trusted?, lookup?_invalidate, trusted?]
  cases c.lookup? key with
  | none => simp
  | some e => by_cases covered : isCovered filters key <;> simp [covered]

/-! ### Trust as an invariant -/

/-- What a read of the key takes is good: a value that is served has the property, and a fetch
that is joined has at least the number. -/
structure Trusts (c : Cache V J) (key : Key) (least : Nat) (good : V → Prop) : Prop where
  value : ∀ v, c.trusted? key = some v → good v
  flight : ∀ id, c.underway? key = some id → least ≤ id
  least_le : least ≤ c.nextFlight

namespace Trusts

variable {key : Key} {least : Nat} {good : V → Prop}

theorem mono {better : V → Prop} (trusts : Trusts c key least good)
    (weaker : ∀ v, good v → better v) : Trusts c key least better :=
  ⟨fun v found => weaker v (trusts.value v found), trusts.flight, trusts.least_le⟩

/-- Nothing that was there counts any longer: all that is joined from now on is yet to start. -/
theorem of_none (value : c.trusted? key = none) (flight : c.underway? key = none) :
    Trusts c key c.nextFlight good where
  value v found := by simp [value] at found
  flight id found := by simp [flight] at found
  least_le := Nat.le_refl _

theorem read (trusts : Trusts c key least good) (now : Nat) (k : Key) (policy : FetchPolicy)
    (job : J) : Trusts (c.read now k policy job).1 key least good where
  value v found := trusts.value v (by simpa using found)
  flight id found := by
    rcases underway?_read c now k key policy job id found with before | new
    · exact trusts.flight id before
    · exact new ▸ trusts.least_le
  least_le := by
    have := trusts.least_le
    rcases nextFlight_read c now k policy job with ⟨same, _⟩ | ⟨more, _⟩ <;> omega

theorem land (trusts : Trusts c key least good) (ledger : Ledger c started) (now : Nat)
    (f : Flight J) (member : f ∈ started) (outcome : Except Error V)
    (brings : f.key = key → least ≤ f.id → ∀ v, outcome = .ok v → good v) :
    Trusts (c.land now f outcome) key least good where
  value v found := by
    rcases ledger.trusted?_land now f member outcome key v found with before | ⟨mine, joined, ok⟩
    · exact trusts.value v before
    · exact brings mine (trusts.flight f.id joined) v ok
  flight id found := trusts.flight id (underway?_land c now f outcome key id found)
  least_le := by simpa using trusts.least_le

theorem invalidate (trusts : Trusts c key least good) (ledger : Ledger c started)
    (filters : List Filter) : Trusts (c.invalidate filters) key least good where
  value v found := by
    rw [trusted?_invalidate] at found
    split at found
    · cases found
    · exact trusts.value v found
  flight id found := by
    rw [ledger.underway?_invalidate] at found
    split at found
    · cases found
    · exact trusts.flight id found
  least_le := trusts.least_le

theorem clear (trusts : Trusts c key least good) : Trusts c.clear key least good where
  value v found := by cases found
  flight id found := by cases found
  least_le := trusts.least_le

theorem collect (trusts : Trusts c key least good) (ledger : Ledger c started) (now : Nat) :
    Trusts (c.collect now) key least good where
  value v found := trusts.value v (ledger.trusted?_collect now key v found)
  flight id found := trusts.flight id (ledger.underway?_collect now key id found)
  least_le := trusts.least_le

end Trusts

end DbConsole.Cache

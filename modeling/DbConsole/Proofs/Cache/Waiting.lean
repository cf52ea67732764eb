import DbConsole.Proofs.Cache.Run

/-!
The fetch that an entry waits for. It is the one that was started last for its key; the entry waits
for it until it lands, until another one is started for the key, or until the cache is cleared, and
meanwhile the entry's generation counts the invalidations of the key.
-/
set_option autoImplicit false

namespace DbConsole

/-- What an entry keeps of a fetch that it waits for. -/
def Flight.mark {J : Type} (f : Flight J) : FlightMark :=
  ⟨f.id, f.generation⟩

namespace Cache

variable {V J : Type}

/-- The fetch that the entry of a key waits for, whether or not it may still be joined. -/
def mark? (c : Cache V J) (key : Key) : Option FlightMark :=
  (c.lookup? key).bind Entry.flight

theorem mark?_eq_some (c : Cache V J) (key : Key) (mark : FlightMark) :
    c.mark? key = some mark ↔ ∃ e, c.lookup? key = some e ∧ e.flight = some mark :=
  Option.bind_eq_some_iff

/-! ### Operations -/

theorem flight_entryForRead (c : Cache V J) (now : Nat) (key : Key) :
    (c.entryForRead now key).flight = c.mark? key := by
  unfold entryForRead mark?
  cases c.lookup? key <;> rfl

@[simp] theorem mark?_setEntry_entryForRead (c : Cache V J) (now : Nat) (key k : Key) :
    (c.setEntry key (c.entryForRead now key)).mark? k = c.mark? k := by
  by_cases same : key = k
  · subst same
    rw [mark?, lookup?_setEntry_self]
    exact flight_entryForRead c now key
  · rw [mark?, lookup?_setEntry_of_ne c key k _ same, mark?]

theorem mark?_depart_self (c : Cache V J) (key : Key) (e : Entry V) (job : J) :
    (c.depart key e job).mark? key = some ⟨c.nextFlight, e.generation⟩ := by
  rw [mark?, lookup?_depart_self]
  rfl

theorem mark?_depart_of_ne (c : Cache V J) (key k : Key) (e : Entry V) (job : J)
    (apart : key ≠ k) : (c.depart key e job).mark? k = c.mark? k := by
  rw [mark?, lookup?_depart_of_ne c key k e job apart, mark?]

/-- A landing leaves every entry that waits for another fetch, or for none. -/
theorem lookup?_land_of_apart (c : Cache V J) (now : Nat) (f : Flight J)
    (outcome : Except Error V) (key : Key)
    (apart : ∀ mark, c.mark? key = some mark → key = f.key → mark.id ≠ f.id) :
    (c.land now f outcome).lookup? key = c.lookup? key := by
  change (c.record now f outcome).lookup? key = c.lookup? key
  rcases record_cases c now f outcome with ⟨e, mark, found, held, mine, same⟩ | ⟨_, same⟩
  · have other : f.key ≠ key := by
      intro here
      have waits : c.mark? key = some mark := (mark?_eq_some c key mark).mpr ⟨e, here ▸ found, held⟩
      exact apart mark waits here.symm mine
    rw [same, lookup?_setEntry_of_ne c f.key key _ other]
  · rw [same]

/-- The entry that waits for a fetch takes the outcome when the fetch lands. -/
theorem lookup?_land_of_waiting (c : Cache V J) (now : Nat) (f : Flight J)
    (outcome : Except Error V) (e : Entry V) (found : c.lookup? f.key = some e)
    (held : e.flight = some f.mark) :
    (c.land now f outcome).lookup? f.key = some (e.landed now f.generation outcome) := by
  change (c.record now f outcome).lookup? f.key = _
  rcases record_cases c now f outcome with ⟨e', _, found', _, _, same⟩ | ⟨apart, _⟩
  · rw [found] at found'
    cases found'
    rw [same, lookup?_setEntry_self]
  · exact absurd rfl (apart e f.mark found held)

@[simp] theorem flight_landed (e : Entry V) (now generation : Nat) (outcome : Except Error V) :
    (e.landed now generation outcome).flight = none := by
  cases outcome <;> rfl

/-- A landing ends the wait for it and no other. -/
theorem mark?_of_land (c : Cache V J) (now : Nat) (f : Flight J) (outcome : Except Error V)
    (key : Key) (mark : FlightMark) (held : (c.land now f outcome).mark? key = some mark) :
    c.mark? key = some mark := by
  obtain ⟨e, found, flight⟩ := (mark?_eq_some _ key mark).mp held
  have before := (lookup?_land_of_flight c now f outcome key e mark found flight).1
  exact (mark?_eq_some c key mark).mpr ⟨e, before, flight⟩

@[simp] theorem mark?_invalidate (c : Cache V J) (filters : List Filter) (key : Key) :
    (c.invalidate filters).mark? key = c.mark? key := by
  rw [mark?, lookup?_invalidate, mark?]
  cases c.lookup? key with
  | none => rfl
  | some e =>
    rw [Option.map_some, Option.bind_some, Option.bind_some]
    split <;> rfl

/-- An entry that waits for a fetch is not evicted. -/
theorem lookup?_collect_of_flight (c : Cache V J) (now : Nat) (key : Key) (e : Entry V)
    (mark : FlightMark) (once : (c.entries.map Prod.fst).Nodup) (found : c.lookup? key = some e)
    (held : e.flight = some mark) : (c.collect now).lookup? key = some e := by
  obtain ⟨p, first, rfl⟩ := Option.map_eq_some_iff.mp found
  have mine : p.1 = key := by simpa using List.find?_some first
  have used : c.isUsed now p.2 = true := by simp [isUsed, held]
  have kept : p ∈ (c.collect now).entries :=
    List.mem_filter.mpr ⟨List.mem_of_find?_eq_some first, used⟩
  have once' : ((c.collect now).entries.map Prod.fst).Nodup :=
    once.sublist (List.filter_sublist.map Prod.fst)
  exact mine ▸ lookup?_of_mem once' kept

/-- A fetch of the ledger is all that its number can stand for. -/
theorem Ledger.mark_eq {c : Cache V J} {started : Set (Flight J)} (ledger : Ledger c started)
    {f : Flight J} (member : f ∈ started) {key : Key} {e : Entry V} {mark : FlightMark}
    (found : c.lookup? key = some e) (held : e.flight = some mark) (mine : mark.id = f.id) :
    mark = f.mark := by
  obtain ⟨_, _, g, inStarted, isMark, _, generation⟩ := ledger.marked key e mark found held
  have same : g = f := ledger.unique g inStarted f member (isMark.trans mine)
  subst same
  cases mark
  cases isMark
  cases generation
  rfl

namespace Run

variable {r : Run V J} {start n : Nat} {f : Flight J}

/-! ### Starts -/

/-- A fetch is started by a read of its key that finds none to join. -/
theorem Starts.exists_read (starts : r.Starts n f) :
    ∃ now policy, r.event n = .read now f.key policy f.job ∧
      (r.cache n).underway? f.key = none ∧ f.id = (r.cache n).nextFlight ∧
      f.generation = ((r.cache n).entryForRead now f.key).generation ∧
      r.cache (n + 1) = (r.cache n).depart f.key ((r.cache n).entryForRead now f.key) f.job := by
  have nothing (same : (r.cache (n + 1)).departures = (r.cache n).departures) : False := by
    rw [Starts, same] at starts
    simpa using congrArg List.length starts
  cases happens : r.event n with
  | read now key policy job =>
    rcases read_cache (r.cache n) now key policy job with same | ⟨idle, same⟩
    · exact (nothing (by rw [cache_succ, happens, Event.apply, same]; rfl)).elim
    · have departs : r.cache (n + 1) =
          (r.cache n).depart key ((r.cache n).entryForRead now key) job := by
        rw [cache_succ, happens, Event.apply, same]
      rw [Starts, departs] at starts
      have last := List.append_cancel_left starts
      cases last
      exact ⟨now, policy, rfl, idle, rfl, rfl, departs⟩
  | land now g outcome =>
    refine (nothing ?_).elim
    rw [cache_succ, happens]
    exact departures_land _ _ _ _
  | invalidate filters => exact (nothing (by rw [cache_succ, happens]; rfl)).elim
  | clear => exact (nothing (by rw [cache_succ, happens]; rfl)).elim
  | collect now => exact (nothing (by rw [cache_succ, happens]; rfl)).elim
  | leave reader => exact (nothing (by rw [cache_succ, happens]; rfl)).elim

theorem Starts.mem_departures (starts : r.Starts start f) (later : start < n) :
    f ∈ (r.cache n).departures := by
  apply r.departures_mono (start + 1) n later
  rw [starts]
  exact List.mem_append_right _ (List.mem_singleton_self f)

theorem Starts.lt_nextFlight (starts : r.Starts start f) (later : start < n) :
    f.id < (r.cache n).nextFlight :=
  (r.ledger n).below f (starts.mem_departures later)

theorem Starts.lt_of_mem (starts : r.Starts start f) (member : f ∈ (r.cache n).departures) :
    start < n := by
  by_contra early
  obtain ⟨_, _, _, _, isNext, _, _⟩ := starts.exists_read
  have below : f.id < (r.cache n).nextFlight := (r.ledger n).below f member
  have counted := r.nextFlight_mono n start (Nat.le_of_not_lt early)
  omega

/-! ### One event -/

/-- What an event makes of an entry that it does not remove. -/
inductive Becomes (r : Run V J) (n : Nat) (key : Key) (e e' : Entry V) : Prop
  /-- At most it is read, and another fetch is started for it. -/
  | kept (quiet : (r.event n).forgets key = false)
    (same : e' = { e with flight := e'.flight, readAt := e'.readAt }) : Becomes r n key e e'
  | landed (now : Nat) (f : Flight J) (outcome : Except Error V)
    (happens : r.event n = .land now f outcome) (mine : f.key = key)
    (held : e.flight = some f.mark) (same : e' = e.landed now f.generation outcome) :
    Becomes r n key e e'
  | invalidated (forgotten : (r.event n).forgets key = true) (same : e' = e.invalidate) :
    Becomes r n key e e'

theorem becomes (key : Key) (e e' : Entry V) (found : (r.cache n).lookup? key = some e)
    (found' : (r.cache (n + 1)).lookup? key = some e') : r.Becomes n key e e' := by
  have unchanged (quiet : (r.event n).forgets key = false)
      (still : (r.cache n).lookup? key = some e') : r.Becomes n key e e' := by
    cases found.symm.trans still
    exact .kept quiet rfl
  rw [cache_succ] at found'
  cases happens : r.event n with
  | read now k policy job =>
    have quiet : (r.event n).forgets key = false := by
      rw [happens]
      rfl
    rw [happens, Event.apply] at found'
    by_cases here : k = key
    · subst here
      obtain ⟨_, same⟩ := (r.cache n).exists_lookup?_read_self now k policy job
      rw [same, entryForRead, found] at found'
      cases found'
      exact .kept quiet rfl
    · exact unchanged quiet ((lookup?_read_of_ne policy here).symm.trans found')
  | land now g outcome =>
    have quiet : (r.event n).forgets key = false := by
      rw [happens]
      rfl
    rw [happens] at found'
    rcases lookup?_land_cases found' with ⟨still, _⟩ | ⟨rfl, e₀, mark, before, held, mine, rfl⟩
    · exact unchanged quiet still
    · cases found.symm.trans before
      have isMark := (r.ledger n).mark_eq (r.lands n now g outcome happens).1 before held mine
      exact .landed now g outcome happens rfl (isMark ▸ held) rfl
  | invalidate filters =>
    rw [happens, Event.apply, lookup?_invalidate, found, Option.map_some] at found'
    by_cases covered : isCovered filters key
    · rw [if_pos covered] at found'
      cases found'
      refine .invalidated ?_ rfl
      rw [happens]
      exact covered
    · rw [if_neg covered] at found'
      cases found'
      refine .kept ?_ rfl
      rw [happens]
      exact Bool.eq_false_of_not_eq_true covered
  | clear =>
    rw [happens] at found'
    cases found'
  | collect now =>
    rw [happens] at found'
    refine unchanged ?_ (lookup?_collect (r.cache n) now key e' (r.ledger n).once found')
    rw [happens]
    rfl
  | leave reader =>
    rw [happens] at found'
    refine unchanged ?_ found'
    rw [happens]
    rfl

/-- An entry goes on waiting for its fetch, whatever happens, unless the fetch lands, another one is
started for the key, or the cache is cleared. -/
theorem exists_waiting_succ (e : Entry V) (found : (r.cache n).lookup? f.key = some e)
    (held : e.flight = some f.mark) (member : f ∈ (r.cache n).departures)
    (pending : ∀ now outcome, r.event n ≠ .land now f outcome)
    (uncleared : r.event n ≠ .clear) (alone : ∀ g, r.Starts n g → g.key ≠ f.key) :
    ∃ e', (r.cache (n + 1)).lookup? f.key = some e' ∧ e'.flight = some f.mark ∧
      e'.generation = if (r.event n).forgets f.key then e.generation + 1 else e.generation := by
  rw [cache_succ]
  cases happens : r.event n with
  | read now key policy job =>
    rcases read_cache (r.cache n) now key policy job with same | ⟨_, same⟩ <;>
      rw [Event.apply, same]
    · by_cases here : key = f.key
      · subst here
        refine ⟨_, lookup?_setEntry_self _ _ _, ?_, ?_⟩ <;> rw [entryForRead, found]
        · exact held
        · rfl
      · rw [lookup?_setEntry_of_ne _ _ _ _ here]
        exact ⟨e, found, held, rfl⟩
    · have starts : r.Starts n
          ⟨(r.cache n).nextFlight, key, ((r.cache n).entryForRead now key).generation, job⟩ := by
        rw [Starts, cache_succ, happens, Event.apply, same]
        rfl
      rw [lookup?_depart_of_ne _ _ _ _ _ (alone _ starts)]
      exact ⟨e, found, held, rfl⟩
  | land now g outcome =>
    have other : f.id ≠ g.id := by
      intro sameId
      have same : f = g :=
        (r.ledger n).unique f member g (r.lands n now g outcome happens).1 sameId
      exact pending now outcome (same ▸ happens)
    have apart : ∀ mark, (r.cache n).mark? f.key = some mark → f.key = g.key →
        mark.id ≠ g.id := by
      intro mark waits _
      have isMark := ((mark?_eq_some _ _ _).mpr ⟨e, found, held⟩).symm.trans waits
      cases isMark
      exact other
    rw [Event.apply, lookup?_land_of_apart _ _ _ _ _ apart]
    exact ⟨e, found, held, rfl⟩
  | invalidate filters =>
    rw [Event.apply, lookup?_invalidate, found, Option.map_some]
    refine ⟨_, rfl, ?_, ?_⟩
    · split <;> exact held
    · rw [Event.forgets]
      split <;> rfl
  | clear => exact absurd happens uncleared
  | collect now =>
    exact ⟨e, lookup?_collect_of_flight _ now _ e f.mark (r.ledger n).once found held, held, rfl⟩
  | leave reader => exact ⟨e, found, held, rfl⟩

/-- An entry that waits for a fetch has waited for it before, or the fetch has the number that was
free. -/
theorem mark?_of_succ (key : Key) (mark : FlightMark)
    (waits : (r.cache (n + 1)).mark? key = some mark) :
    (r.cache n).mark? key = some mark ∨ mark.id = (r.cache n).nextFlight := by
  rw [cache_succ] at waits
  cases happens : r.event n with
  | read now k policy job =>
    rw [happens] at waits
    rcases read_cache (r.cache n) now k policy job with same | ⟨_, same⟩ <;>
      rw [Event.apply, same] at waits
    · rw [mark?_setEntry_entryForRead] at waits
      exact Or.inl waits
    · by_cases here : k = key
      · subst here
        rw [mark?_depart_self] at waits
        cases waits
        exact Or.inr rfl
      · rw [mark?_depart_of_ne _ _ _ _ _ here] at waits
        exact Or.inl waits
  | land now g outcome =>
    rw [happens] at waits
    exact Or.inl (mark?_of_land _ now g outcome key mark waits)
  | invalidate filters =>
    rw [happens, Event.apply, mark?_invalidate] at waits
    exact Or.inl waits
  | clear =>
    rw [happens] at waits
    cases waits
  | collect now =>
    rw [happens] at waits
    obtain ⟨e, found, held⟩ := (mark?_eq_some _ _ _).mp waits
    have before := lookup?_collect (r.cache n) now key e (r.ledger n).once found
    exact Or.inl ((mark?_eq_some _ _ _).mpr ⟨e, before, held⟩)
  | leave reader =>
    rw [happens] at waits
    exact Or.inl waits

/-! ### A wait as a whole -/

/-- Since its start the cache has not been cleared and no later fetch of the key was started. -/
def Latest (r : Run V J) (start n : Nat) (f : Flight J) : Prop :=
  ∀ m, start < m → m < n → r.event m ≠ .clear ∧ ∀ g, r.Starts m g → g.key ≠ f.key

/-- While nothing comes in between, the entry waits for the fetch, and its generation tells whether
the key has been invalidated. -/
theorem exists_waiting (starts : r.Starts start f) (later : start < n)
    (pending : ∀ m, start < m → m < n → ∀ now outcome, r.event m ≠ .land now f outcome)
    (latest : r.Latest start n f) :
    ∃ e, (r.cache n).lookup? f.key = some e ∧ e.flight = some f.mark ∧
      f.generation ≤ e.generation ∧ (e.generation = f.generation ↔
        ∀ m, start < m → m < n → (r.event m).forgets f.key = false) := by
  induction n, later using Nat.le_induction with
  | base =>
    obtain ⟨now, policy, _, _, isNext, generation, departs⟩ := starts.exists_read
    change ∃ e, (r.cache (start + 1)).lookup? f.key = some e ∧ _
    rw [departs]
    refine ⟨_, lookup?_depart_self _ _ _ _, ?_, Nat.le_of_eq generation, ?_⟩
    · rw [← isNext, ← generation]
      rfl
    · have nothing : ∀ m, start < m → m < start.succ → (r.event m).forgets f.key = false :=
        fun m behind before => absurd behind (Nat.not_lt_of_le (Nat.le_of_lt_succ before))
      exact iff_of_true generation.symm nothing
  | succ n reached ih =>
    obtain ⟨e, found, held, least, counts⟩ := ih
      (fun m behind before => pending m behind (Nat.lt_succ_of_lt before))
      (fun m behind before => latest m behind (Nat.lt_succ_of_lt before))
    obtain ⟨uncleared, alone⟩ := latest n reached (Nat.lt_succ_self n)
    obtain ⟨e', found', held', grown⟩ := exists_waiting_succ e found held
      (starts.mem_departures reached) (pending n reached (Nat.lt_succ_self n)) uncleared alone
    refine ⟨e', found', held', ?_, ?_⟩
    · rw [grown]
      split <;> omega
    · rw [grown]
      constructor
      · intro same m behind before
        by_cases forgotten : (r.event n).forgets f.key = true
        · rw [if_pos forgotten] at same
          omega
        · rw [if_neg forgotten] at same
          rcases Nat.lt_succ_iff_lt_or_eq.mp before with earlier | rfl
          · exact counts.mp same m behind earlier
          · exact Bool.eq_false_of_not_eq_true forgotten
      · intro none
        rw [none n reached (Nat.lt_succ_self n)]
        exact counts.mpr fun m behind before => none m behind (Nat.lt_succ_of_lt before)

/-- An entry that waits for a fetch has done so since the start. -/
theorem mark?_between (starts : r.Starts start f) {m : Nat} (behind : start < m) (le : m ≤ n)
    (waits : (r.cache n).mark? f.key = some f.mark) :
    (r.cache m).mark? f.key = some f.mark := by
  induction n, le using Nat.le_induction with
  | base => exact waits
  | succ n le ih =>
    rcases mark?_of_succ f.key f.mark waits with before | new
    · exact ih before
    · have below : f.id < (r.cache n).nextFlight := starts.lt_nextFlight (by omega)
      exact absurd new (Nat.ne_of_lt below)

theorem latest_of_waiting (starts : r.Starts start f)
    (waits : (r.cache n).mark? f.key = some f.mark) : r.Latest start n f := by
  intro m behind before
  have still : (r.cache (m + 1)).mark? f.key = some f.mark :=
    mark?_between starts (Nat.lt_succ_of_lt behind) before waits
  refine ⟨fun cleared => ?_, fun g later sameKey => ?_⟩
  · rw [cache_succ, cleared] at still
    cases still
  · obtain ⟨now, _, _, _, _, _, departs⟩ := later.exists_read
    rw [departs, sameKey, mark?_depart_self] at still
    have isNext : (r.cache m).nextFlight = f.id := congrArg FlightMark.id (Option.some.inj still)
    have below : f.id < (r.cache m).nextFlight := starts.lt_nextFlight behind
    omega

end Run

end Cache

end DbConsole

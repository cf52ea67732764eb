import DbConsole.Proofs.Cache.Coherence
import DbConsole.Proofs.Cache.Waiting

/-!
What the entries take from fetches. The outcome of a fetch is recorded just if no later fetch of its
key has been started and the cache has not been cleared since; and nothing else changes a value
that stays.
-/
set_option autoImplicit false

namespace DbConsole.Cache.Run

variable {V J : Type} {r : Run V J} {start finish n now : Nat} {f : Flight J}
  {outcome : Except Error V}

/-- The fetch lands there, and its outcome makes a difference to the entries. -/
def Records (r : Run V J) (n : Nat) (f : Flight J) (outcome : Except Error V) : Prop :=
  (∃ now, r.event n = .land now f outcome) ∧ (r.cache (n + 1)).entries ≠ (r.cache n).entries

/-- The key has been invalidated between the two points. -/
def Invalidated (r : Run V J) (start n : Nat) (key : Key) : Prop :=
  ∃ m filters, start < m ∧ m < n ∧ r.event m = .invalidate filters ∧
    isCovered filters key = true

/-- What an entry takes from a fetch. -/
structure Takes (outcome : Except Error V) (overtaken : Prop) (e e' : Entry V) : Prop where
  flight : e'.flight = none
  success : ∀ v, outcome = .ok v →
    e'.value = some v ∧ e'.lastError = none ∧ (e'.invalidated = true ↔ overtaken)
  failure : ∀ err, outcome = .error err → e' = { e with flight := none, lastError := some err }

/-! ### Which outcomes are recorded -/

theorem mark?_eq_none_of_land (happens : r.event n = .land now f outcome) (mark : FlightMark)
    (waits : (r.cache (n + 1)).mark? f.key = some mark) : mark.id ≠ f.id := by
  obtain ⟨e, found, held⟩ := (mark?_eq_some _ _ _).mp waits
  rw [cache_succ, happens] at found
  exact (lookup?_land_of_flight _ now f outcome f.key e mark found held).2 rfl

/-- A landing is recorded just if the entry waits for the fetch. -/
theorem records_iff_mark? (happens : r.event n = .land now f outcome) :
    r.Records n f outcome ↔ (r.cache n).mark? f.key = some f.mark := by
  constructor
  · rintro ⟨_, changes⟩
    rcases record_cases (r.cache n) now f outcome with ⟨e, mark, found, held, mine, _⟩ | ⟨_, same⟩
    · have isMark := (r.ledger n).mark_eq (r.lands n now f outcome happens).1 found held mine
      exact (mark?_eq_some _ _ _).mpr ⟨e, found, isMark ▸ held⟩
    · refine absurd ?_ changes
      rw [cache_succ, happens]
      change ((r.cache n).record now f outcome).entries = _
      rw [same]
  · intro waits
    refine ⟨⟨now, happens⟩, fun same => ?_⟩
    have still : (r.cache (n + 1)).mark? f.key = some f.mark := by
      rw [mark?, lookup?, same]
      exact waits
    exact mark?_eq_none_of_land happens f.mark still rfl

/-- No fetch lands twice. -/
theorem pending_of_land (happens : r.event finish = .land now f outcome) {m : Nat}
    (before : m < finish) (at' : Nat) (other : Except Error V) :
    r.event m ≠ .land at' f other :=
  r.pending_of_landing? (r.lands finish now f outcome happens).2 before at' other

theorem Starts.lt_of_land (starts : r.Starts start f)
    (happens : r.event finish = .land now f outcome) : start < finish :=
  starts.lt_of_mem (r.lands finish now f outcome happens).1

theorem Starts.records_iff (starts : r.Starts start f)
    (happens : r.event finish = .land now f outcome) :
    r.Records finish f outcome ↔ r.Latest start finish f := by
  rw [records_iff_mark? happens]
  constructor
  · exact latest_of_waiting starts
  · intro latest
    obtain ⟨e, found, held, _⟩ := exists_waiting starts (starts.lt_of_land happens)
      (fun m _ before => pending_of_land happens before) latest
    exact (mark?_eq_some _ _ _).mpr ⟨e, found, held⟩

/-! ### What is recorded -/

/-- Without a clearing the key is forgotten by invalidations alone. -/
theorem Latest.invalidated_iff (latest : r.Latest start n f) :
    r.Invalidated start n f.key ↔
      ¬ ∀ m, start < m → m < n → (r.event m).forgets f.key = false := by
  constructor
  · rintro ⟨m, filters, behind, before, happens, covered⟩ none
    have remembered := none m behind before
    rw [happens, Event.forgets, covered] at remembered
    cases remembered
  · intro some_
    simp only [not_forall, Bool.not_eq_false] at some_
    obtain ⟨m, behind, before, forgotten⟩ := some_
    rcases (Event.forgets_iff f.key (r.event m)).mp forgotten with
      cleared | ⟨filters, happens, covered⟩
    · exact absurd cleared (latest m behind before).1
    · exact ⟨m, filters, behind, before, happens, covered⟩

theorem Records.takes (starts : r.Starts start f)
    (happens : r.event finish = .land now f outcome) (records : r.Records finish f outcome) :
    ∃ e e', (r.cache finish).lookup? f.key = some e ∧
      (r.cache (finish + 1)).lookup? f.key = some e' ∧
      Takes outcome (r.Invalidated start finish f.key) e e' := by
  have latest : r.Latest start finish f := (starts.records_iff happens).mp records
  obtain ⟨e, found, held, _, counts⟩ := exists_waiting starts (starts.lt_of_land happens)
    (fun m _ before => pending_of_land happens before) latest
  refine ⟨e, e.landed now f.generation outcome, found, ?_, flight_landed _ _ _ _, ?_, ?_⟩
  · rw [cache_succ, happens]
    exact lookup?_land_of_waiting (r.cache finish) now f outcome e found held
  · rintro v rfl
    refine ⟨rfl, rfl, ?_⟩
    rw [latest.invalidated_iff, ← counts]
    exact bne_iff_ne
  · rintro err rfl
    rfl

/-- A landing leaves the entries of all other keys alone. -/
theorem lookup?_of_land (happens : r.event n = .land now f outcome) (key : Key)
    (apart : key ≠ f.key) : (r.cache (n + 1)).lookup? key = (r.cache n).lookup? key := by
  rw [cache_succ, happens, Event.apply]
  exact lookup?_land_of_apart _ _ _ _ _ fun _ _ same => absurd same apart

/-- The value of an entry that stays changes only when a success is recorded for it. -/
theorem value_succ (key : Key) (e e' : Entry V) (found : (r.cache n).lookup? key = some e)
    (found' : (r.cache (n + 1)).lookup? key = some e') :
    e'.value = e.value ∨ ∃ f v, f.key = key ∧ r.Records n f (.ok v) ∧ e'.value = some v := by
  cases becomes key e e' found found' with
  | kept _ same =>
    rw [same]
    exact Or.inl rfl
  | landed now f outcome happens mine held same =>
    cases outcome with
    | error err =>
      rw [same]
      exact Or.inl rfl
    | ok v =>
      have waits : (r.cache n).mark? f.key = some f.mark :=
        (mark?_eq_some _ _ _).mpr ⟨e, mine ▸ found, held⟩
      have records : r.Records n f (.ok v) := (records_iff_mark? happens).mpr waits
      rw [same]
      exact Or.inr ⟨f, v, mine, records, rfl⟩
  | invalidated _ same =>
    rw [same]
    exact Or.inl rfl

/-- What is recorded for a key later comes from a fetch with a greater number. -/
theorem Records.id_lt {m : Nat} {g : Flight J} {outcome' : Except Error V}
    (records : r.Records n f outcome) (records' : r.Records m g outcome')
    (sameKey : g.key = f.key) (lt : n < m) : f.id < g.id := by
  obtain ⟨⟨now, happens⟩, _⟩ := id records
  obtain ⟨⟨now', happens'⟩, _⟩ := id records'
  have member := (r.lands n now f outcome happens).1
  have member' := (r.lands m now' g outcome' happens').1
  obtain ⟨start, before, starts, next⟩ := r.started n f member
  obtain ⟨start', _, starts', next'⟩ := r.started m g member'
  by_contra least
  have other : f ≠ g := by
    rintro rfl
    exact pending_of_land happens' lt now outcome happens
  have differ : f.id ≠ g.id := fun same =>
    other ((r.ledger m).unique f (r.departures_mono n m lt.le member) g member' same)
  have order : start' < start := by
    by_contra early
    have counted := r.nextFlight_mono (start + 1) (start' + 1) (by omega)
    omega
  have latest : r.Latest start' m g := (starts'.records_iff happens').mp records'
  exact (latest start order (before.trans lt)).2 f starts sameKey.symm

/-- The outcome of a fetch is recorded just if, since its start, the cache has not been cleared and
no later fetch of the key was started; whether entries were evicted makes no difference. A success
that is recorded replaces the value, and it is trusted unless the key has been invalidated since
the start; a failure leaves the value alone; and a landing that is not recorded changes nothing.
No other event changes the value of an entry that stays, and the values of a key come from fetches
with ever greater numbers. -/
theorem recorded_iff_latest (r : Run V J) :
    (∀ start finish now f outcome, r.Starts start f → r.event finish = .land now f outcome →
      (r.Records finish f outcome ↔ r.Latest start finish f) ∧
      (r.Records finish f outcome → ∃ e e', (r.cache finish).lookup? f.key = some e ∧
        (r.cache (finish + 1)).lookup? f.key = some e' ∧
        Takes outcome (r.Invalidated start finish f.key) e e') ∧
      (¬ r.Records finish f outcome → (r.cache (finish + 1)).entries = (r.cache finish).entries) ∧
      ∀ key, key ≠ f.key → (r.cache (finish + 1)).lookup? key = (r.cache finish).lookup? key) ∧
    (∀ n key e e', (r.cache n).lookup? key = some e → (r.cache (n + 1)).lookup? key = some e' →
      e'.value = e.value ∨ ∃ f v, f.key = key ∧ r.Records n f (.ok v) ∧ e'.value = some v) ∧
    ∀ n m f g v w, r.Records n f (.ok v) → r.Records m g (.ok w) → g.key = f.key → n < m →
      f.id < g.id := by
  refine ⟨?_, ?_, ?_⟩
  · intro start finish now f outcome starts happens
    refine ⟨starts.records_iff happens, Records.takes starts happens, fun ignored => ?_,
      lookup?_of_land happens⟩
    by_contra changes
    exact ignored ⟨⟨now, happens⟩, changes⟩
  · intro n key e e' found found'
    exact value_succ key e e' found found'
  · intro n m f g v w records records' sameKey lt
    exact records.id_lt records' sameKey lt

/-- The first fetch of the list lands without effect, the second one is recorded. -/
theorem overtaken_records_last :
    ¬ overtaken.Records 3 ⟨1, .tables, 0, ()⟩ (.ok "old") ∧
      overtaken.Records 4 ⟨2, .tables, 1, ()⟩ (.ok "new") := by
  have recorded := (recorded_iff_latest overtaken).1
  constructor
  · intro records
    have latest := (recorded 0 3 0 ⟨1, .tables, 0, ()⟩ (.ok "old") rfl rfl).1.mp records
    exact (latest 2 (by decide) (by decide)).2 ⟨2, .tables, 1, ()⟩ rfl rfl
  · refine (recorded 2 4 0 ⟨2, .tables, 1, ()⟩ (.ok "new") rfl rfl).1.mpr fun m behind before => ?_
    obtain rfl : m = 3 := by omega
    refine ⟨nofun, fun g starts => ?_⟩
    obtain ⟨_, _, happens, _⟩ := starts.exists_read
    cases happens

end DbConsole.Cache.Run

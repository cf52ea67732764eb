import DbConsole.Proofs.Cache.Run

/-!
Reads are coherent: the value that a read comes to was brought by a fetch of its key that started
behind every clearing and every invalidation of the key before the read.
-/
set_option autoImplicit false

namespace DbConsole.Cache.Run

variable {V J : Type} (r : Run V J)

/-- The least number of a fetch that started since the key was last forgotten. -/
def floor (key : Key) : Nat → Nat
  | 0 => 1
  | n + 1 => if (r.event n).forgets key then (r.cache n).nextFlight else floor key n

/-- A fetch of the key with at least the number has brought the value. -/
def Brought (key : Key) (least n : Nat) (v : V) : Prop :=
  ∃ f ∈ (r.cache n).departures, f.key = key ∧ least ≤ f.id ∧
    ∃ finish now, finish < n ∧ r.event finish = .land now f (.ok v)

theorem floor_le (key : Key) (n : Nat) : r.floor key n ≤ (r.cache n).nextFlight := by
  induction n with
  | zero => exact Nat.le_refl 1
  | succ n ih =>
    have := r.nextFlight_mono n (n + 1) (Nat.le_succ n)
    rw [floor]
    split <;> omega

theorem floor_mono (key : Key) (n m : Nat) (later : n ≤ m) : r.floor key n ≤ r.floor key m := by
  induction m, later using Nat.le_induction with
  | base => exact Nat.le_refl _
  | succ m _ ih =>
    have := r.floor_le key m
    rw [floor]
    split <;> omega

/-- An event that forgets the key starts no fetch. -/
theorem nextFlight_le_floor (key : Key) (n : Nat) (forgotten : (r.event n).forgets key = true) :
    (r.cache (n + 1)).nextFlight ≤ r.floor key (n + 1) := by
  rw [floor, if_pos forgotten, cache_succ]
  rcases (Event.forgets_iff key (r.event n)).mp forgotten with happens | ⟨filters, happens, _⟩ <;>
    rw [happens] <;> exact Nat.le_refl _

theorem Brought.succ {r : Run V J} {key : Key} {least n : Nat} {v : V}
    (brought : r.Brought key least n v) : r.Brought key least (n + 1) v := by
  obtain ⟨f, member, mine, above, finish, now, before, happens⟩ := brought
  exact ⟨f, r.departures_mono n (n + 1) (Nat.le_succ n) member, mine, above, finish, now,
    Nat.lt_succ_of_lt before, happens⟩

/-- At every point of a run a key can be trusted as far back as it was last forgotten. -/
theorem trusts (key : Key) (n : Nat) :
    Trusts (r.cache n) key (r.floor key n) (r.Brought key (r.floor key n) n) := by
  induction n with
  | zero => exact Trusts.of_none rfl rfl
  | succ n ih =>
    have ledger := r.ledger n
    by_cases forgotten : (r.event n).forgets key = true
    · rw [floor, if_pos forgotten, cache_succ]
      rcases (Event.forgets_iff key (r.event n)).mp forgotten with
        happens | ⟨filters, happens, covered⟩ <;> rw [happens]
      · exact Trusts.of_none rfl rfl
      · refine Trusts.of_none ?_ ?_
        · rw [Event.apply, trusted?_invalidate, if_pos covered]
        · rw [Event.apply, ledger.underway?_invalidate, if_pos covered]
    · rw [floor, if_neg forgotten]
      have held := ih.mono fun v => Brought.succ (v := v)
      rw [cache_succ]
      cases happens : r.event n with
      | invalidate filters => exact held.invalidate ledger filters
      | clear => exact held.clear
      | read now k policy job => exact held.read now k policy job
      | collect now => exact held.collect ledger now
      | leave reader => exact held
      | land now f outcome =>
        have member := (r.lands n now f outcome happens).1
        refine held.land ledger now f member outcome ?_
        rintro mine above v rfl
        exact ⟨f, r.departures_mono n (n + 1) (Nat.le_succ n) member, mine, above, n, now,
          Nat.lt_succ_self n, happens⟩

/-- A fetch numbered above the floor of a point started behind all that forgets the key before. -/
theorem forgotten_before_start (key : Key) (point start forgetting : Nat) (f : Flight J)
    (numbered : (r.cache (start + 1)).nextFlight = f.id + 1) (above : r.floor key point ≤ f.id)
    (earlier : forgetting < point) (forgotten : (r.event forgetting).forgets key = true) :
    forgetting < start := by
  by_contra behind
  have reached := r.nextFlight_le_floor key forgetting forgotten
  have kept := r.floor_mono key (forgetting + 1) point earlier
  have counted := r.nextFlight_mono (start + 1) (forgetting + 1) (by omega)
  omega

/-- What the reader who waits for a fetch gets was brought by it, behind the beginning of the
read. -/
theorem brought_of_awaiting (start n now : Nat) (key : Key) (policy : FetchPolicy) (job : J)
    (id : Nat) (v : V) (happens : r.event start = .read now key policy job) (later : start < n)
    (waits : ((r.cache start).read now key policy job).2 = .awaiting id)
    (found : (r.cache n).landing? id = some (.ok v)) :
    ∃ f finish at', start < finish ∧ finish < n ∧ f ∈ (r.cache finish).departures ∧
      f.key = key ∧ r.floor key start ≤ f.id ∧ r.event finish = .land at' f (.ok v) := by
  have joined : (r.cache (start + 1)).underway? key = some id := by
    rw [cache_succ, happens]
    exact underway?_of_awaiting (r.cache start) now key policy job id waits
  have kept : r.floor key (start + 1) = r.floor key start := by
    rw [floor, happens]
    rfl
  obtain ⟨pending, f, member, isJoined, mine⟩ := (r.ledger (start + 1)).underway key id joined
  obtain ⟨finish, at', g, behind, before, lands, same⟩ :=
    r.landed_between (start + 1) n id (.ok v) later pending found
  have inRun := (r.lands finish at' g (.ok v) lands).1
  have isG : g = f := (r.ledger finish).unique g inRun f
    (r.departures_mono (start + 1) finish behind member) (same.trans isJoined.symm)
  refine ⟨f, finish, at', by omega, before, isG ▸ inRun, mine, ?_, isG ▸ lands⟩
  rw [isJoined, ← kept]
  exact (r.trusts key (start + 1)).flight id joined

/-- The value that a read returns was brought by a fetch of its key which started behind everything
that made the cache forget the key before the read. A reader who asks for a fresh value gets one
from a fetch that was still on its way when the read began. -/
theorem returned_value_is_current {α : Type} (cast : V → Option α) (start n now : Nat) (key : Key)
    (policy : FetchPolicy) (job : J) (a : α) (happens : r.event start = .read now key policy job)
    (later : start < n) (returned : r.result? cast start n = some (.ok a)) :
    ∃ departure f finish at' v, r.Starts departure f ∧ f.key = key ∧ departure < finish ∧
      finish < n ∧ r.event finish = .land at' f (.ok v) ∧ cast v = some a ∧
      (∀ forgetting < start, (r.event forgetting).forgets key = true → forgetting < departure) ∧
      (policy = .fresh → start < finish) := by
  have origin : ∃ f finish at' v, finish < n ∧ f ∈ (r.cache finish).departures ∧ f.key = key ∧
      r.floor key start ≤ f.id ∧ r.event finish = .land at' f (.ok v) ∧ cast v = some a ∧
      (policy = .fresh → start < finish) := by
    rw [result?, happens] at returned
    cases reading : ((r.cache start).read now key policy job).2 with
    | served v =>
      obtain ⟨cached, trusted⟩ := trusted?_of_served (r.cache start) now key policy job v reading
      obtain ⟨f, _, mine, above, finish, at', before, lands⟩ :=
        (r.trusts key start).value v trusted
      simp only [reading, outcome?, Option.some.injEq] at returned
      exact ⟨f, finish, at', v, by omega, (r.lands finish at' f (.ok v) lands).1, mine, above,
        lands, ofKind_eq_ok returned,
        fun fresh => by rw [cached] at fresh; cases fresh⟩
    | awaiting id =>
      simp only [reading, outcome?, Option.map_eq_some_iff] at returned
      obtain ⟨outcome, found, given⟩ := returned
      cases outcome with
      | error e => cases given
      | ok v =>
        obtain ⟨f, finish, at', behind, before, member, mine, above, lands⟩ :=
          r.brought_of_awaiting start n now key policy job id v happens later reading found
        exact ⟨f, finish, at', v, before, member, mine, above, lands, ofKind_eq_ok given,
          fun _ => behind⟩
  obtain ⟨f, finish, at', v, before, member, mine, above, lands, fits, fresh⟩ := origin
  obtain ⟨departure, early, starts, numbered⟩ := r.started finish f member
  exact ⟨departure, f, finish, at', v, starts, mine, early, before, lands, fits,
    fun forgetting earlier forgotten =>
      r.forgotten_before_start key start departure forgetting f numbered above earlier forgotten,
    fresh⟩

/-- A list of tables is fetched, forgotten and fetched anew; then both fetches land, the one that
was overtaken first. -/
def overtaken : Run String Unit where
  settings := ⟨300000, 1800000, 1, 1000⟩
  event
    | 0 => .read 0 .tables .cached ()
    | 1 => .invalidate [.exact .tables]
    | 2 => .read 0 .tables .fresh ()
    | 3 => .land 0 ⟨1, .tables, 0, ()⟩ (.ok "old")
    | 4 => .land 0 ⟨2, .tables, 1, ()⟩ (.ok "new")
    | _ => .leave 0
  lands := by
    intro n now flight outcome happens
    match n with
    | 3 => cases happens; exact ⟨List.mem_cons_self, rfl⟩
    | 4 => cases happens; exact ⟨List.mem_cons_of_mem _ List.mem_cons_self, rfl⟩
    | 0 | 1 | 2 | _ + 5 => cases happens

theorem overtaken_returns_new :
    overtaken.event 2 = .read 0 .tables .fresh () ∧ 2 < 5 ∧
      overtaken.result? some 2 5 = some (.ok "new") ∧
      ∃ departure f finish at' v, overtaken.Starts departure f ∧ f.key = .tables ∧
        departure < finish ∧ finish < 5 ∧ overtaken.event finish = .land at' f (.ok v) ∧
        some v = some "new" ∧
        (∀ forgetting < 2, (overtaken.event forgetting).forgets .tables = true →
          forgetting < departure) ∧
        (FetchPolicy.fresh = .fresh → 2 < finish) :=
  ⟨rfl, by decide, rfl,
    returned_value_is_current overtaken some 2 5 0 .tables .fresh () "new" rfl (by decide) rfl⟩

end DbConsole.Cache.Run

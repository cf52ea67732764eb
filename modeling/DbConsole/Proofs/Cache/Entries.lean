import DbConsole.Proofs.Cache.Retrying

/-!
What holds of every entry of a cache, whatever goes on around it: it has a value just if it has a date for
it, it waits for no fetch but one that is still going on, and a value that is trusted was brought by a fetch
that started at the generation at which the entry stands.
-/
set_option autoImplicit false

namespace DbConsole

variable {V J : Type}

namespace Entry

/-- The entry has a date just if it has a value. -/
def Dated (e : Entry V) : Prop :=
  e.value.isSome = e.updatedAt.isSome

variable {e : Entry V}

theorem dated_blank (now : Nat) : (blank now : Entry V).Dated := rfl

theorem Dated.landed (dated : e.Dated) (now generation : Nat) (outcome : Except Error V) :
    (e.landed now generation outcome).Dated := by
  cases outcome with
  | ok v => rfl
  | error err => exact dated

/-- An entry that is fresh at some time has a value that is trusted. -/
theorem Dated.of_isFresh (dated : e.Dated) {now staleTime : Nat} (fresh : e.isFresh now staleTime = true) :
    e.value.isSome = true ∧ e.invalidated = false := by
  unfold isFresh at fresh
  rw [Bool.and_eq_true, Bool.not_eq_true'] at fresh
  obtain ⟨trusted, young⟩ := fresh
  refine ⟨?_, trusted⟩
  rw [dated]
  cases date : e.updatedAt with
  | none => simp [date] at young
  | some _ => rfl

/-- A landing that leaves the value trusted has kept a trusted value or brings one for the generation. -/
theorem trusted_of_landed {now generation : Nat} {outcome : Except Error V} {v : V}
    (value : (e.landed now generation outcome).value = some v)
    (trusted : (e.landed now generation outcome).invalidated = false) :
    (e.value = some v ∧ e.invalidated = false) ∨ outcome = .ok v ∧ generation = e.generation := by
  cases outcome with
  | ok w =>
    have same : e.generation = generation := by simpa [landed] using trusted
    exact .inr ⟨congrArg Except.ok (Option.some.inj value), same.symm⟩
  | error err => exact .inl ⟨value, trusted⟩

@[simp] theorem generation_landed (now generation : Nat) (outcome : Except Error V) :
    (e.landed now generation outcome).generation = e.generation := by
  cases outcome <;> rfl

end Entry

namespace Cache

/-- The fetch is over: nothing is left of its task. -/
def Leg.IsOver (leg : Leg V J) : Prop :=
  leg = .ready (.done ())

theorem Stage.not_isOver {settings : CacheSettings} {f : Flight J} {leg : Leg V J}
    {told : List (Except Error V)} {asked : Nat} (stage : Stage settings f leg told asked none) :
    ¬ leg.IsOver := by
  rintro rfl
  cases stage

namespace Traffic

/-- What can become of the entry of a key in one move. -/
inductive Becomes (t : Traffic V J) (m : Move V J) (k : Key) : Option (Entry V) → Entry V → Prop
  | kept (e : Entry V) : Becomes t m k (some e) e
  | read (now : Nat) : Becomes t m k (t.cache.lookup? k) (t.cache.entryForRead now k)
  | departed (now : Nat) :
    Becomes t m k (t.cache.lookup? k)
      { t.cache.entryForRead now k with
        flight := some ⟨t.cache.nextFlight, (t.cache.entryForRead now k).generation⟩ }
  | invalidated (e : Entry V) : Becomes t m k (some e) e.invalidate
  | landed (e : Entry V) (now i : Nat) (f : Flight J) (leg : Leg V J) (outcome : Except Error V)
    (found : (t.lane k).fetches[i]? = some (f, leg))
    (brought : (t.step m).cache.landing? f.id = some outcome) :
    Becomes t m k (some e) (e.landed now f.generation outcome)

/-- A fetch of the key that started at the generation has landed with the value. -/
def Backs (t : Traffic V J) (k : Key) (generation : Nat) (v : V) : Prop :=
  ∃ (i : Nat) (f : Flight J) (leg : Leg V J), (t.lane k).fetches[i]? = some (f, leg) ∧
    f.generation = generation ∧ t.cache.landing? f.id = some (.ok v)

namespace Tracked

variable {settings : CacheSettings} {t : Traffic V J} {told : Key → Nat → List (Except Error V)}
  {asked : Key → Nat → Nat} {k : Key} {e : Entry V}

theorem becomes_of_read {key : Key} (now : Nat) (policy : FetchPolicy) (job : J)
    (found : (t.step (.about key (.read now policy job))).cache.lookup? k = some e) :
    t.Becomes (.about key (.read now policy job)) k (t.cache.lookup? k) e := by
  change (t.cache.read now key policy job).1.lookup? k = some e at found
  by_cases here : key = k
  · subst here
    rcases read_cache t.cache now key policy job with same | ⟨_, same⟩ <;> rw [same] at found
    · rw [lookup?_setEntry_self] at found
      cases found
      exact .read now
    · rw [lookup?_depart_self] at found
      cases found
      exact .departed now
  · rw [lookup?_read_of_ne policy here] at found
    rw [found]
    exact .kept e

theorem becomes_of_visit (tracked : Tracked settings t told asked) (sound : t.Sound) {key : Key}
    (now i : Nat) (found : (t.step (.about key (.visit now i))).cache.lookup? k = some e) :
    t.Becomes (.about key (.visit now i)) k (t.cache.lookup? k) e := by
  rcases tracked.cache_visiting key i now with same | ⟨g, leg, outcome, fetch, _, same⟩
  · rw [show (t.step (.about key (.visit now i))).cache = t.cache from same] at found
    rw [found]
    exact .kept e
  · have landed : (t.step (.about key (.visit now i))).cache = t.cache.land now g outcome := same
    have here : g.key = key := sound.keyed key g (List.mem_map_of_mem (List.mem_of_getElem? fetch))
    subst here
    rw [landed] at found
    rcases lookup?_land_cases found with ⟨before, _⟩ | ⟨rfl, old, _, before, _, _, rfl⟩ <;> rw [before]
    · exact .kept e
    · exact .landed old now i g leg outcome fetch (by rw [landed, landing?_land, if_pos rfl])

/-- An entry behind a move has become of what was there before. -/
theorem becomes (tracked : Tracked settings t told asked) (sound : t.Sound) (m : Move V J)
    (found : (t.step m).cache.lookup? k = some e) : t.Becomes m k (t.cache.lookup? k) e := by
  cases m with
  | about key errand =>
    cases errand with
    | read now policy job => exact becomes_of_read now policy job found
    | visit now i => exact tracked.becomes_of_visit sound now i found
    | leave _ | answer _ _ =>
      rw [show t.cache.lookup? k = some e from found]
      exact .kept e
  | invalidate filters =>
    change (t.cache.invalidate filters).lookup? k = some e at found
    rw [lookup?_invalidate] at found
    obtain ⟨old, before, rfl⟩ := Option.map_eq_some_iff.mp found
    rw [before]
    split
    · exact .invalidated old
    · exact .kept old
  | clear => cases found
  | collect now =>
    rw [lookup?_collect t.cache now k e sound.ledger.once found]
    exact .kept e

theorem backs_step (tracked : Tracked settings t told asked) (sound : t.Sound) (m : Move V J)
    {generation : Nat} {v : V} (backs : t.Backs k generation v) : (t.step m).Backs k generation v := by
  obtain ⟨i, f, leg, found, started, landed⟩ := backs
  obtain ⟨leg', still, _⟩ := tracked.step_stage sound m found
  exact ⟨i, f, leg', still, started, tracked.landing?_step m landed⟩

end Tracked

/-- Each entry has a date just if it has a value, and a value that is trusted has been brought by a fetch
that started at the generation of the entry. -/
structure Regular (t : Traffic V J) : Prop where
  dated : ∀ k e, t.cache.lookup? k = some e → e.Dated
  backed : ∀ k e v, t.cache.lookup? k = some e → e.value = some v → e.invalidated = false →
    t.Backs k e.generation v

namespace Regular

variable {settings : CacheSettings} {t : Traffic V J} {told : Key → Nat → List (Except Error V)}
  {asked : Key → Nat → Nat}

theorem empty (settings : CacheSettings) : Regular (Traffic.empty settings : Traffic V J) where
  dated _ _ found := nomatch found
  backed _ _ _ found := nomatch found

theorem dated_entryForRead (regular : t.Regular) (now : Nat) (k : Key) :
    (t.cache.entryForRead now k).Dated := by
  unfold entryForRead
  cases found : t.cache.lookup? k with
  | none => exact Entry.dated_blank now
  | some e => exact regular.dated k e found

theorem backs_entryForRead (regular : t.Regular) (now : Nat) (k : Key) {v : V}
    (value : (t.cache.entryForRead now k).value = some v)
    (trusted : (t.cache.entryForRead now k).invalidated = false) :
    t.Backs k (t.cache.entryForRead now k).generation v := by
  unfold entryForRead at value trusted ⊢
  cases found : t.cache.lookup? k with
  | none =>
    rw [found] at value
    cases value
  | some e =>
    rw [found] at value trusted
    exact regular.backed k e v found value trusted

theorem step (regular : t.Regular) (tracked : Tracked settings t told asked) (sound : t.Sound)
    (m : Move V J) : (t.step m).Regular where
  dated := by
    intro k e found
    have becomes := tracked.becomes sound m found
    generalize before : t.cache.lookup? k = old at becomes
    cases becomes with
    | kept => exact regular.dated k e before
    | read now => exact regular.dated_entryForRead now k
    | departed now => exact regular.dated_entryForRead now k
    | invalidated old => exact regular.dated k old before
    | landed old now i f leg outcome => exact (regular.dated k old before).landed now f.generation outcome
  backed := by
    intro k e v found value trusted
    have becomes := tracked.becomes sound m found
    generalize before : t.cache.lookup? k = old at becomes
    cases becomes with
    | kept => exact tracked.backs_step sound m (regular.backed k e v before value trusted)
    | read now | departed now =>
      exact tracked.backs_step sound m (regular.backs_entryForRead now k value trusted)
    | invalidated old => cases trusted
    | landed old now i f leg outcome fetch brought =>
      rw [Entry.generation_landed]
      rcases Entry.trusted_of_landed value trusted with ⟨value, trusted⟩ | ⟨rfl, same⟩
      · exact tracked.backs_step sound m (regular.backed k old v before value trusted)
      · obtain ⟨leg', still, _⟩ := tracked.step_stage sound m fetch
        exact ⟨i, f, leg', still, same, brought⟩

end Regular

end Traffic

namespace Flow

variable (w : Flow V J)

theorem regular (n : Nat) : (w.traffic n).Regular := by
  induction n with
  | zero => exact .empty w.settings
  | succ n ih => exact ih.step (w.tracked n) (w.sound n) (w.move n)

/-- A fetch of the key, started at the generation, that is still going on. -/
def GoesOn (n : Nat) (k : Key) (mark : FlightMark) : Prop :=
  ∃ i f leg, w.fetch? n k i = some (f, leg) ∧ f.id = mark.id ∧ f.generation = mark.generation ∧
    ¬ leg.IsOver

/-- What holds of the entry of a key. -/
structure EntryHolds (n : Nat) (k : Key) (e : Entry V) : Prop where
  dated : e.value.isSome = e.updatedAt.isSome
  /-- The fetch that it waits for is not ahead of it, and it has been given its number. -/
  numbered : ∀ mark, e.flight = some mark →
    mark.generation ≤ e.generation ∧ mark.id < (w.traffic n).cache.nextFlight
  apart : ∀ key e' mark mark', (key, e') ∈ (w.traffic n).cache.entries → key ≠ k →
    e.flight = some mark → e'.flight = some mark' → mark.id ≠ mark'.id
  goesOn : ∀ mark, e.flight = some mark → w.GoesOn n k mark
  /-- A value that is trusted has been brought by a fetch that started at the generation of the entry. -/
  backed : ∀ v, e.value = some v → e.invalidated = false →
    ∃ i f leg, w.fetch? n k i = some (f, leg) ∧ f.generation = e.generation ∧
      w.landing? n f = some (.ok v)

variable {w} {n : Nat} {k : Key} {e : Entry V}

theorem goesOn_of_marked (found : (w.traffic n).cache.lookup? k = some e) {mark : FlightMark}
    (held : e.flight = some mark) : w.GoesOn n k mark := by
  obtain ⟨_, pending, f, started, number, rfl, generation⟩ := (w.sound n).ledger.marked k e mark found held
  obtain ⟨p, mem, rfl⟩ := List.mem_map.mp ((w.sound n).mem_lane started)
  obtain ⟨i, at_i⟩ := List.mem_iff_getElem?.mp mem
  have stage := (w.tracked n).stage _ i p.1 p.2 at_i
  rw [number, pending] at stage
  exact ⟨i, p.1, p.2, at_i, number, generation, stage.not_isOver⟩

theorem entryHolds (found : (w.traffic n).cache.lookup? k = some e) : w.EntryHolds n k e where
  dated := (w.regular n).dated k e found
  numbered mark held := by
    obtain ⟨ordered, _, f, started, number, _⟩ := (w.sound n).ledger.marked k e mark found held
    exact ⟨ordered, number ▸ (w.sound n).ledger.below f started⟩
  apart := by
    intro key e' mark mark' mem other held held' same
    have found' := lookup?_of_mem (w.sound n).ledger.once mem
    obtain ⟨_, _, f, started, number, here, _⟩ := (w.sound n).ledger.marked k e mark found held
    obtain ⟨_, _, g, started', number', here', _⟩ := (w.sound n).ledger.marked key e' mark' found' held'
    obtain rfl := (w.sound n).ledger.unique f started g started' (number.trans (same.trans number'.symm))
    exact other (here'.symm.trans here)
  goesOn mark held := goesOn_of_marked found held
  backed v value trusted := (w.regular n).backed k e v found value trusted

/-- A collection keeps no entry that has not been read for so long but those whose fetch still goes on. -/
theorem goesOn_of_collected (now : Nat) (kept : (k, e) ∈ ((w.traffic n).cache.collect now).entries)
    (unread : w.settings.gcTime ≤ now - e.readAt) :
    ∃ mark, e.flight = some mark ∧ w.GoesOn n k mark := by
  obtain ⟨mem, used⟩ := List.mem_filter.mp kept
  have found := lookup?_of_mem (w.sound n).ledger.once mem
  rw [isUsed, (w.tracked n).same, Bool.or_eq_true, decide_eq_true_eq] at used
  have waits := used.resolve_right (Nat.not_lt.mpr unread)
  obtain ⟨mark, held⟩ := Option.isSome_iff_exists.mp waits
  exact ⟨mark, held, goesOn_of_marked found held⟩

/-- At any time there is one entry for a key, and it has a value just if it has a date, waits for a fetch of
its own that still goes on, and trusts no value but one that was fetched at its generation. So when all
fetches are over nothing is shown as being fetched, a collection keeps nothing for the sake of a fetch that
is over, and what is shown as fresh has a value that no invalidation has been about. -/
theorem entries_hold (w : Flow V J) (n : Nat) :
    ((w.traffic n).cache.entries.map Prod.fst).Nodup ∧
    (∀ k e, (k, e) ∈ (w.traffic n).cache.entries → w.EntryHolds n k e) ∧
    ((∀ k i f leg, w.fetch? n k i = some (f, leg) → leg.IsOver) →
      ∀ now k shown, (w.traffic n).cache.snapshot? now k = some shown → shown.fetching = false) ∧
    (∀ now k e, (k, e) ∈ ((w.traffic n).cache.collect now).entries →
      w.settings.gcTime ≤ now - e.readAt → ∃ mark, e.flight = some mark ∧ w.GoesOn n k mark) ∧
    ∀ now k shown, (w.traffic n).cache.snapshot? now k = some shown → shown.fresh = true →
      shown.hasValue = true ∧ shown.invalidated = false := by
  have once := (w.sound n).ledger.once
  refine ⟨once, fun k e mem => entryHolds (lookup?_of_mem once mem), ?_, ?_, ?_⟩
  · intro ended now k shown seen
    obtain ⟨e, found, rfl⟩ := Option.map_eq_some_iff.mp seen
    refine Bool.eq_false_iff.mpr fun waits => ?_
    obtain ⟨mark, held⟩ := Option.isSome_iff_exists.mp waits
    obtain ⟨i, f, leg, fetch, _, _, goesOn⟩ := goesOn_of_marked found held
    exact goesOn (ended k i f leg fetch)
  · exact fun now k e kept unread => goesOn_of_collected now kept unread
  · intro now k shown seen fresh
    obtain ⟨e, found, rfl⟩ := Option.map_eq_some_iff.mp seen
    exact ((w.regular n).dated k e found).of_isFresh fresh

/-- While the fetch has no answer the entry waits for it; it has landed, and the entry is fresh. -/
theorem unreachedOnce_entries_hold :
    ((unreachedOnce.traffic 5).cache.lookup? .tables).map (·.flight) = some (some ⟨1, 0⟩) ∧
    unreachedOnce.GoesOn 5 .tables ⟨1, 0⟩ ∧
    (∀ k i f leg, unreachedOnce.fetch? 8 k i = some (f, leg) → leg.IsOver) ∧
    ((unreachedOnce.traffic 8).cache.snapshot? 5 .tables).map (fun shown => (shown.fetching, shown.fresh)) =
      some (false, true) := by
  have ended : ∀ k i f leg, unreachedOnce.fetch? 8 k i = some (f, leg) → leg.IsOver := by
    intro k i f leg found
    cases k with
    | tables =>
      match i with
      | 0 => cases found; rfl
      | i + 1 => cases found
    | _ => cases found
  refine ⟨rfl, ?_, ended, rfl⟩
  obtain ⟨_, holds, _⟩ := entries_hold unreachedOnce 5
  exact (holds .tables _ (.head _)).goesOn ⟨1, 0⟩ rfl

end Flow

end Cache

end DbConsole

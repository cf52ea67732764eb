import DbConsole.Proofs.Cache.Traffic

/-!
The keys of a cache do not get in each other's way. They share the numbers of the flights and the list of
the entries, so the same traffic without the moves about other keys comes to the same for a key, but that
its flights have other numbers.
-/
set_option autoImplicit false

namespace DbConsole

variable {V J : Type} {ρ ρ' : Nat → Nat}

namespace Entry

/-- The entry when the flights have other numbers. -/
def renumber (ρ : Nat → Nat) (e : Entry V) : Entry V :=
  { e with flight := e.flight.map fun mark => ⟨ρ mark.id, mark.generation⟩ }

variable (e : Entry V)

@[simp] theorem usable?_renumber : (e.renumber ρ).usable? = e.usable? := rfl

@[simp] theorem isFresh_renumber (now staleTime : Nat) :
    (e.renumber ρ).isFresh now staleTime = e.isFresh now staleTime := rfl

@[simp] theorem current?_renumber : (e.renumber ρ).current? = e.current?.map ρ := by
  unfold current? renumber
  cases e.flight with
  | none => rfl
  | some mark => by_cases same : mark.generation = e.generation <;> simp [same]

@[simp] theorem invalidate_renumber : (e.renumber ρ).invalidate = e.invalidate.renumber ρ := rfl

@[simp] theorem landed_renumber (now generation : Nat) (outcome : Except Error V) :
    (e.renumber ρ).landed now generation outcome = (e.landed now generation outcome).renumber ρ := by
  cases outcome <;> rfl

theorem renumber_congr (same : ∀ mark, e.flight = some mark → ρ' mark.id = ρ mark.id) :
    e.renumber ρ' = e.renumber ρ := by
  unfold renumber
  cases held : e.flight with
  | none => rfl
  | some mark => rw [Option.map_some, Option.map_some, same mark held]

end Entry

def Reading.renumber (ρ : Nat → Nat) : Reading V → Reading V
  | .served v => .served v
  | .awaiting id => .awaiting (ρ id)

namespace Cache

/-! ### What becomes of one entry -/

theorem lookup?_land_self (c : Cache V J) (now : Nat) (f : Flight J) (outcome : Except Error V) :
    (c.land now f outcome).lookup? f.key = (c.lookup? f.key).map fun e =>
      if e.flight.map (·.id) = some f.id then e.landed now f.generation outcome else e := by
  change (c.record now f outcome).lookup? f.key = _
  rw [record]
  cases found : c.lookup? f.key with
  | none => exact found
  | some e =>
    dsimp only [Option.map_some]
    split
    · exact lookup?_setEntry_self _ _ _
    · exact found

/-- A collection keeps the entries that are used. -/
theorem lookup?_collect_eq (c : Cache V J) (now : Nat) (key : Key)
    (once : (c.entries.map Prod.fst).Nodup) :
    (c.collect now).lookup? key = (c.lookup? key).filter (c.isUsed now) := by
  cases found : c.lookup? key with
  | none =>
    cases kept : (c.collect now).lookup? key with
    | none => rfl
    | some e => cases found.symm.trans (lookup?_collect c now key e once kept)
  | some e =>
    obtain ⟨p, first, rfl⟩ := Option.map_eq_some_iff.mp found
    have same : p.1 = key := by simpa using List.find?_some first
    by_cases used : c.isUsed now p.2 = true
    · have member : p ∈ (c.collect now).entries :=
        List.mem_filter.mpr ⟨List.mem_of_find?_eq_some first, used⟩
      have kept := find?_eq_of_mem _ (once.sublist (List.filter_sublist.map _)) p member
      rw [Option.filter_some, if_pos used, ← same]
      exact congrArg (Option.map Prod.snd) kept
    · rw [Option.filter_some, if_neg used]
      cases kept : (c.collect now).lookup? key with
      | none => rfl
      | some e =>
        obtain ⟨q, last, rfl⟩ := Option.map_eq_some_iff.mp kept
        have before := (lookup?_collect c now key q.2 once kept).symm.trans found
        rw [← Option.some.inj before] at used
        exact absurd (List.mem_filter.mp (List.mem_of_find?_eq_some last)).2 used

@[simp] theorem settings_read (c : Cache V J) (now : Nat) (key : Key) (policy : FetchPolicy) (job : J) :
    (c.read now key policy job).1.settings = c.settings := by
  rcases read_cache c now key policy job with same | ⟨_, same⟩ <;> rw [same] <;> rfl

@[simp] theorem settings_land (c : Cache V J) (now : Nat) (f : Flight J) (outcome : Except Error V) :
    (c.land now f outcome).settings = c.settings := by
  rw [land, record_eq]

/-- What one cache has for the key the other one has under other numbers. -/
structure Alike (k : Key) (ρ : Nat → Nat) (flights : List (Flight J)) (c c' : Cache V J) : Prop where
  settings : c'.settings = c.settings
  entry : c'.lookup? k = (c.lookup? k).map (·.renumber ρ)
  landing : ∀ f ∈ flights, c'.landing? (ρ f.id) = c.landing? f.id

namespace Alike

variable {k : Key} {flights : List (Flight J)} {c c' : Cache V J}

theorem snapshot?_eq (alike : Alike k ρ flights c c') (now : Nat) :
    c'.snapshot? now k = c.snapshot? now k := by
  rw [snapshot?, snapshot?, alike.entry, alike.settings, Option.map_map]
  cases c.lookup? k with
  | none => rfl
  | some e =>
    simp only [Option.map_some, Function.comp_apply, Entry.isFresh_renumber]
    cases held : e.flight <;> simp [Entry.renumber, held]

/-- A read of the entry does the same in both, if they agree on the number of the next flight. -/
theorem read_cases (alike : Alike k ρ flights c c') (next : ρ c.nextFlight = c'.nextFlight)
    (now : Nat) (policy : FetchPolicy) (job : J) :
    ∃ reading, (c'.entryForRead now k = (c.entryForRead now k).renumber ρ) ∧
      ((c.read now k policy job = (c.setEntry k (c.entryForRead now k), reading) ∧
        c'.read now k policy job =
          (c'.setEntry k (c'.entryForRead now k), reading.renumber ρ)) ∨
      (c.read now k policy job = (c.depart k (c.entryForRead now k) job, reading) ∧
        c'.read now k policy job =
          (c'.depart k (c'.entryForRead now k) job, reading.renumber ρ))) := by
  have same : c'.entryForRead now k = (c.entryForRead now k).renumber ρ := by
    rw [entryForRead, entryForRead, alike.entry]
    cases c.lookup? k <;> rfl
  unfold read
  rw [same, alike.settings]
  generalize c.entryForRead now k = e
  cases policy with
  | fresh =>
    cases found : e.current? with
    | none =>
      exact ⟨.awaiting c.nextFlight, rfl,
        .inr ⟨by simp [found], by simp [found, Reading.renumber, next]⟩⟩
    | some id =>
      exact ⟨.awaiting id, rfl, .inl ⟨by simp [found], by simp [found, Reading.renumber]⟩⟩
  | cached =>
    cases value : e.usable? with
    | none =>
      cases found : e.current? with
      | none =>
        exact ⟨.awaiting c.nextFlight, rfl,
          .inr ⟨by simp [found, value], by simp [found, value, Reading.renumber, next]⟩⟩
      | some id =>
        exact ⟨.awaiting id, rfl,
          .inl ⟨by simp [found, value], by simp [found, value, Reading.renumber]⟩⟩
    | some v =>
      refine ⟨.served v, rfl, ?_⟩
      cases found : e.current? with
      | some id => exact .inl ⟨by simp [found, value], by simp [found, value, Reading.renumber]⟩
      | none =>
        by_cases young : e.isFresh now c.settings.staleTime = true
        · exact .inl ⟨by simp [found, value, young], by simp [found, value, young, Reading.renumber]⟩
        · exact .inr ⟨by simp [found, value, young], by simp [found, value, young, Reading.renumber]⟩

/-- A read leaves both with the same entry and lets the same fetch depart, under other numbers. -/
theorem read (alike : Alike k ρ flights c c') (next : ρ c.nextFlight = c'.nextFlight)
    (quiet : c.departures = []) (quiet' : c'.departures = []) (now : Nat) (policy : FetchPolicy)
    (job : J) :
    Alike k ρ flights (c.read now k policy job).1 (c'.read now k policy job).1 ∧
    (c'.read now k policy job).1.departures =
      (c.read now k policy job).1.departures.map (Flight.renumber ρ) ∧
    (c'.read now k policy job).2 = (c.read now k policy job).2.renumber ρ := by
  have landing : ∀ f ∈ flights, (c'.read now k policy job).1.landing? (ρ f.id) =
      (c.read now k policy job).1.landing? f.id := by
    intro f mem
    rw [landing?_read, landing?_read]
    exact alike.landing f mem
  obtain ⟨reading, same, ⟨ran, ran'⟩ | ⟨ran, ran'⟩⟩ := alike.read_cases next now policy job
  · rw [ran, ran'] at landing ⊢
    refine ⟨⟨alike.settings, ?_, landing⟩, ?_, rfl⟩
    · rw [lookup?_setEntry_self, lookup?_setEntry_self, same, Option.map_some]
    · change c'.departures = c.departures.map _
      rw [quiet, quiet', List.map_nil]
  · rw [ran, ran'] at landing ⊢
    refine ⟨⟨alike.settings, ?_, landing⟩, ?_, rfl⟩
    · rw [lookup?_depart_self, lookup?_depart_self, same, Option.map_some, ← next]
      rfl
    · change c'.departures ++ _ = (c.departures ++ _).map _
      rw [quiet, quiet', List.nil_append, List.nil_append, List.map_singleton, same, ← next]
      rfl

theorem land (alike : Alike k ρ flights c c') {f : Flight J} (here : f.key = k)
    (marked : ∀ e mark, c.lookup? k = some e → e.flight = some mark → ρ mark.id = ρ f.id →
      mark.id = f.id)
    (apart : ∀ g ∈ flights, ρ f.id = ρ g.id → f.id = g.id) (now : Nat) (outcome : Except Error V) :
    Alike k ρ flights (c.land now f outcome) (c'.land now (f.renumber ρ) outcome) where
  settings := by rw [settings_land, settings_land, alike.settings]
  entry := by
    subst here
    rw [lookup?_land_self]
    refine (lookup?_land_self c' now (f.renumber ρ) outcome).trans ?_
    change (c'.lookup? f.key).map _ = _
    rw [alike.entry, Option.map_map, Option.map_map]
    cases found : c.lookup? f.key with
    | none => rfl
    | some e =>
      have waits : (e.renumber ρ).flight.map (·.id) = some (ρ f.id) ↔
          e.flight.map (·.id) = some f.id := by
        cases held : e.flight with
        | none => simp [Entry.renumber, held]
        | some mark =>
          simpa [Entry.renumber, held] using ⟨marked e mark found held, congrArg ρ⟩
      refine congrArg some ?_
      by_cases lands : e.flight.map (·.id) = some f.id
      · exact (if_pos (waits.mpr lands)).trans
          ((e.landed_renumber now f.generation outcome).trans
            (congrArg (Entry.renumber ρ) (if_pos lands).symm))
      · exact (if_neg fun mine => lands (waits.mp mine)).trans
          (congrArg (Entry.renumber ρ) (if_neg lands).symm)
  landing := by
    intro g mem
    rw [landing?_land, landing?_land, alike.landing g mem]
    exact if_congr ⟨apart g mem, congrArg ρ⟩ rfl rfl

theorem invalidate (alike : Alike k ρ flights c c') (filters : List Filter) :
    Alike k ρ flights (c.invalidate filters) (c'.invalidate filters) where
  settings := alike.settings
  entry := by
    rw [lookup?_invalidate, lookup?_invalidate, alike.entry, Option.map_map, Option.map_map]
    refine Option.map_congr fun e _ => ?_
    by_cases covered : isCovered filters k = true <;> simp [covered]
  landing := alike.landing

theorem clear (alike : Alike k ρ flights c c') : Alike k ρ flights c.clear c'.clear where
  settings := alike.settings
  entry := rfl
  landing := alike.landing

theorem collect (alike : Alike k ρ flights c c') (once : (c.entries.map Prod.fst).Nodup)
    (once' : (c'.entries.map Prod.fst).Nodup) (now : Nat) :
    Alike k ρ flights (c.collect now) (c'.collect now) where
  settings := alike.settings
  entry := by
    rw [lookup?_collect_eq c now k once, lookup?_collect_eq c' now k once', alike.entry]
    cases c.lookup? k with
    | none => rfl
    | some e =>
      have same : c'.isUsed now (e.renumber ρ) = c.isUsed now e := by
        rw [isUsed, isUsed, alike.settings]
        cases held : e.flight <;> simp [Entry.renumber, held]
      rw [Option.map_some, Option.filter_some, Option.filter_some, same]
      split <;> rfl
  landing := alike.landing

end Alike

namespace Traffic

/-- What one traffic has come to for the key the other one has come to under other numbers. -/
structure Alike (k : Key) (ρ : Nat → Nat) (t t' : Traffic V J) : Prop where
  caches : Cache.Alike k ρ (t.lane k).flights t.cache t'.cache
  fetches : SameFetches ρ (t.lane k) (t'.lane k)
  readers : (t'.lane k).readers = (t.lane k).readers.map (Option.map (Reading.renumber ρ))
  calls : (t'.lane k).calls = (t.lane k).calls
  apart : ∀ f ∈ (t.lane k).flights, ∀ g ∈ (t.lane k).flights, ρ f.id = ρ g.id → f.id = g.id

namespace Sound

variable {t : Traffic V J} (sound : t.Sound)

include sound

/-- An entry waits for a fetch of its own lane. -/
theorem exists_marked {k : Key} {e : Entry V} {mark : FlightMark} (found : t.cache.lookup? k = some e)
    (held : e.flight = some mark) : ∃ f ∈ (t.lane k).flights, f.id = mark.id := by
  obtain ⟨-, -, f, started, number, rfl, -⟩ := sound.ledger.marked k e mark found held
  exact ⟨f, sound.mem_lane started, number⟩

theorem lt_nextFlight {k : Key} {f : Flight J} (mem : f ∈ (t.lane k).flights) :
    f.id < t.cache.nextFlight :=
  sound.ledger.below f ⟨k, mem⟩

theorem landing?_nextFlight : t.cache.landing? t.cache.nextFlight = none := by
  cases early : t.cache.landing? t.cache.nextFlight with
  | none => rfl
  | some outcome => exact absurd (sound.ledger.landed _ outcome early) (Nat.lt_irrefl _)

end Sound

namespace Alike

variable {k : Key} {t t' : Traffic V J}

/-- Numbers of which none has been taken can be given anew. -/
theorem rename (alike : Alike k ρ t t') (sound : t.Sound)
    (same : ∀ f ∈ (t.lane k).flights, ρ' f.id = ρ f.id) : Alike k ρ' t t' where
  caches := by
    refine ⟨alike.caches.settings, ?_, fun f mem => ?_⟩
    · rw [alike.caches.entry]
      refine Option.map_congr fun e found => (e.renumber_congr fun mark held => ?_).symm
      obtain ⟨f, mem, number⟩ := sound.exists_marked found held
      exact number ▸ same f mem
    · rw [same f mem]
      exact alike.caches.landing f mem
  fetches := alike.fetches.renumber same
  readers := by
    rw [alike.readers]
    refine List.map_congr_left fun r mem => ?_
    rcases r with _ | _ | id
    · rfl
    · rfl
    · obtain ⟨f, among, rfl⟩ := sound.awaited k id mem
      exact congrArg (some ∘ Reading.awaiting) (same f among).symm
  calls := alike.calls
  apart := by
    intro f mem g mem'
    rw [same f mem, same g mem']
    exact alike.apart f mem g mem'

/-- A read of the key. The fetch that it lets depart, if it does, has the next number in both. -/
theorem read (alike : Alike k ρ t t') (sound : t.Sound) (sound' : t'.Sound)
    (next : ρ t.cache.nextFlight = t'.cache.nextFlight) (now : Nat) (policy : FetchPolicy) (job : J) :
    Alike k ρ (t.step (.about k (.read now policy job))) (t'.step (.about k (.read now policy job))) := by
  obtain ⟨caches, departures, reading⟩ :=
    alike.caches.read next sound.quiet sound'.quiet now policy job
  -- Either no fetch departs, or it has the next number, and then in both.
  have departed : ∀ f ∈ (t.cache.read now k policy job).1.departures, f.id = t.cache.nextFlight :=
    fun f mem => (departed_of_read sound.quiet mem).1 ▸ rfl
  have below : ∀ f ∈ (t.lane k).flights, ρ f.id < t'.cache.nextFlight := fun f mem =>
    sound'.lt_nextFlight (alike.fetches.flights_eq ▸ List.mem_map_of_mem mem)
  have landing : ∀ f ∈ (t.lane k).flights ++ (t.cache.read now k policy job).1.departures,
      t'.cache.landing? (ρ f.id) = t.cache.landing? f.id := by
    intro f mem
    rcases List.mem_append.mp mem with old | new
    · exact alike.caches.landing f old
    · rw [departed f new, next, sound.landing?_nextFlight, sound'.landing?_nextFlight]
  have apart : ∀ f ∈ (t.lane k).flights ++ (t.cache.read now k policy job).1.departures,
      ∀ g ∈ (t.lane k).flights ++ (t.cache.read now k policy job).1.departures,
        ρ f.id = ρ g.id → f.id = g.id := by
    intro f mem g mem' same
    rcases List.mem_append.mp mem with old | new <;>
      rcases List.mem_append.mp mem' with old' | new'
    · exact alike.apart f old g old' same
    · rw [departed g new', next] at same
      exact absurd (below f old) (same ▸ Nat.lt_irrefl _)
    · rw [departed f new, next] at same
      exact absurd (below g old') (same ▸ Nat.lt_irrefl _)
    · rw [departed f new, departed g new']
  refine ⟨?_, ?_, ?_, ?_, ?_⟩
  · rw [lane_step_self, flights_read]
    refine ⟨caches.settings, caches.entry, fun f mem => ?_⟩
    change (t'.cache.read now k policy job).1.landing? _ = (t.cache.read now k policy job).1.landing? _
    rw [landing?_read, landing?_read]
    exact landing f mem
  · rw [lane_step_self, lane_step_self]
    refine List.rel_append alike.fetches ?_
    rw [departures, alike.caches.settings, List.map_map, List.forall₂_map_left_iff,
      List.forall₂_map_right_iff, List.forall₂_same]
    exact fun f _ => ⟨rfl, .ready (.fly _ rfl)⟩
  · rw [lane_step_self, lane_step_self]
    change _ ++ [some _] = (_ ++ [some _]).map _
    rw [List.map_append, alike.readers, reading]
    rfl
  · rw [lane_step_self, lane_step_self]
    exact alike.calls
  · rw [lane_step_self, flights_read]
    exact apart

/-- A visit to a fetch of the key. -/
theorem visit (alike : Alike k ρ t t') (sound : t.Sound) (now i : Nat) :
    Alike k ρ (t.step (.about k (.visit now i))) (t'.step (.about k (.visit now i))) := by
  obtain ⟨flights, readers⟩ := flights_visiting now i t.cache (t.lane k)
  obtain ⟨-, readers'⟩ := flights_visiting now i t'.cache (t'.lane k)
  obtain ⟨fetches, calls, ran⟩ := alike.fetches.visiting now i t.cache t'.cache
  have caches : Cache.Alike k ρ (t.lane k).flights
      (Errand.visiting now i t.cache (t.lane k)).1 (Errand.visiting now i t'.cache (t'.lane k)).1 := by
    rcases ran with ⟨still, still'⟩ | ⟨f, mem, outcome, landed, landed'⟩
    · rw [still, still']
      exact alike.caches
    · rw [landed, landed']
      refine alike.caches.land (sound.keyed k f mem) ?_ (alike.apart f mem) now outcome
      intro e mark found held same
      obtain ⟨g, mem', number⟩ := sound.exists_marked found held
      rw [← number] at same ⊢
      exact alike.apart g mem' f mem same
  refine ⟨?_, ?_, ?_, ?_, ?_⟩
  · rw [lane_step_self]
    exact flights.symm ▸ caches
  · rw [lane_step_self, lane_step_self]
    exact fetches
  · rw [lane_step_self, lane_step_self]
    exact readers'.trans (alike.readers.trans (readers ▸ rfl))
  · rw [lane_step_self, lane_step_self]
    exact calls alike.calls
  · rw [lane_step_self]
    exact flights.symm ▸ alike.apart

theorem about (alike : Alike k ρ t t') (sound : t.Sound) (sound' : t'.Sound) (errand : Errand V J) :
    ∃ ρ, Alike k ρ (t.step (.about k errand)) (t'.step (.about k errand)) := by
  cases errand with
  | read now policy job =>
    -- The number that the next flight would have in the one is given that of the other.
    refine ⟨Function.update ρ t.cache.nextFlight t'.cache.nextFlight, ?_⟩
    refine (alike.rename sound fun f mem => ?_).read sound sound' (Function.update_self ..) now policy job
    exact Function.update_of_ne (Nat.ne_of_lt (sound.lt_nextFlight mem)) ..
  | leave reader =>
    refine ⟨ρ, ?_, ?_, ?_, ?_, ?_⟩ <;> simp only [lane_step_self]
    · exact alike.caches
    · exact alike.fetches
    · change (t'.lane k).readers.set reader none = ((t.lane k).readers.set reader none).map _
      rw [List.map_set, alike.readers]
      rfl
    · exact alike.calls
    · exact alike.apart
  | visit now i => exact ⟨ρ, alike.visit sound now i⟩
  | answer i outcome =>
    have flights : ((Errand.answer i outcome).run k t.cache (t.lane k)).2.flights =
        (t.lane k).flights :=
      map_fst_modify _ i fun _ => rfl
    refine ⟨ρ, ?_, ?_, ?_, ?_, ?_⟩ <;> simp only [lane_step_self]
    · exact flights.symm ▸ alike.caches
    · exact alike.fetches.answered i outcome
    · exact alike.readers
    · exact alike.calls
    · exact flights.symm ▸ alike.apart

/-- What is about another key leaves the key alone. -/
theorem about_other (alike : Alike k ρ t t') (sound : t.Sound) {key : Key} (other : key ≠ k)
    (errand : Errand V J) : Alike k ρ (t.step (.about key errand)) t' := by
  have caches : Cache.Alike k ρ (t.lane k).flights (t.step (.about key errand)).cache t'.cache := by
    cases errand with
    | read now policy job =>
      refine ⟨alike.caches.settings.trans (settings_read ..).symm, ?_, fun f mem => ?_⟩
      · refine alike.caches.entry.trans (congrArg _ ?_)
        exact (lookup?_read_of_ne policy other).symm
      · exact (alike.caches.landing f mem).trans (landing?_read ..).symm
    | leave reader => exact alike.caches
    | answer i outcome => exact alike.caches
    | visit now i =>
      obtain ⟨-, -, ran⟩ := (sound.flying key).visiting now i t.cache t.cache
      change Cache.Alike k ρ _ (Errand.visiting now i t.cache (t.lane key)).1 _
      rcases ran with ⟨still, -⟩ | ⟨f, mem, outcome, landed, -⟩
      · exact still.symm ▸ alike.caches
      · have apart : f.key ≠ k := sound.keyed key f mem ▸ other
        rw [landed]
        refine ⟨alike.caches.settings.trans (settings_land ..).symm, ?_, fun g mem' => ?_⟩
        · refine alike.caches.entry.trans (congrArg _ ?_)
          exact (lookup?_land_of_apart _ _ _ _ _ fun _ _ here => absurd here.symm apart).symm
        · have differ : f.id ≠ g.id := by
            intro same
            obtain rfl := sound.ledger.unique f ⟨key, mem⟩ g ⟨k, mem'⟩ same
            exact apart (sound.keyed k f mem')
          rw [landing?_land, if_neg differ]
          exact alike.caches.landing g mem'
  have lane := lane_step_of_ne t errand other
  refine ⟨lane.symm ▸ caches, ?_, ?_, ?_, ?_⟩ <;> rw [lane]
  · exact alike.fetches
  · exact alike.readers
  · exact alike.calls
  · exact alike.apart

/-- A move that concerns the key is made in both, and any other one only in the one. -/
theorem step (alike : Alike k ρ t t') (sound : t.Sound) (sound' : t'.Sound) (m : Move V J) :
    ∃ ρ, Alike k ρ (t.step m) (if m.concerns k then t'.step m else t') := by
  cases m with
  | about key errand =>
    by_cases here : key = k
    · subst here
      have concerned : (Move.about key errand).concerns key = true := beq_self_eq_true key
      rw [if_pos concerned]
      exact alike.about sound sound' errand
    · rw [if_neg (by simpa [Move.concerns] using here)]
      exact ⟨ρ, alike.about_other sound here errand⟩
  | invalidate filters => exact ⟨ρ, alike.caches.invalidate filters, alike.2, alike.3, alike.4, alike.5⟩
  | clear => exact ⟨ρ, alike.caches.clear, alike.2, alike.3, alike.4, alike.5⟩
  | collect now =>
    exact ⟨ρ, alike.caches.collect sound.ledger.once sound'.ledger.once now, alike.2, alike.3, alike.4,
      alike.5⟩

theorem result?_eq (alike : Alike k ρ t t') (sound : t.Sound) {α : Type} (cast : V → Option α)
    (reader : Nat) :
    (t'.lane k).result? t'.cache k cast reader = (t.lane k).result? t.cache k cast reader := by
  rw [Lane.result?, Lane.result?, alike.readers, List.getElem?_map]
  cases found : (t.lane k).readers[reader]? with
  | none => rfl
  | some given =>
    rcases given with _ | _ | id
    · rfl
    · rfl
    · obtain ⟨f, mem, rfl⟩ := sound.awaited k id (List.mem_of_getElem? found)
      exact congrArg (Option.map _) (alike.caches.landing f mem)

end Alike

/-- The same moves, with and without those about other keys. -/
theorem exists_alike (settings : CacheSettings) (k : Key) (moves : List (Move V J)) :
    ∃ ρ, Alike k ρ (after settings moves) (after settings (moves.filter (·.concerns k))) := by
  induction moves using List.reverseRecOn with
  | nil => exact ⟨id, ⟨rfl, rfl, nofun⟩, .nil, rfl, rfl, nofun⟩
  | append_singleton moves m ih =>
    obtain ⟨ρ, alike⟩ := ih
    obtain ⟨ρ', step⟩ := alike.step (sound_after settings moves) (sound_after settings _) m
    refine ⟨ρ', ?_⟩
    rw [after_append, List.filter_append]
    cases concerned : m.concerns k with
    | true =>
      rw [if_pos concerned] at step
      rwa [List.filter_singleton, concerned, cond_true, after_append]
    | false =>
      rw [if_neg (Bool.eq_false_iff.mp concerned)] at step
      rwa [List.filter_singleton, concerned, cond_false, List.append_nil]

/-- The traffic about other keys makes no difference to a key: not to what its readers get, not to the
jobs that are asked for it and when, and not to its entry, but for the numbers of the flights. -/
theorem key_isolated (settings : CacheSettings) (k : Key) (moves : List (Move V J)) :
    let whole := after settings moves
    let alone := after settings (moves.filter (·.concerns k))
    (∀ {α : Type} (cast : V → Option α) (reader : Nat),
      (alone.lane k).result? alone.cache k cast reader =
        (whole.lane k).result? whole.cache k cast reader) ∧
    (alone.lane k).calls = (whole.lane k).calls ∧
    (∀ now, alone.cache.snapshot? now k = whole.cache.snapshot? now k) ∧
    ∃ ρ, alone.cache.lookup? k = (whole.cache.lookup? k).map (·.renumber ρ) ∧
      (alone.lane k).flights = (whole.lane k).flights.map (Flight.renumber ρ) ∧
      ∀ f ∈ (whole.lane k).flights, ∀ g ∈ (whole.lane k).flights, ρ f.id = ρ g.id → f.id = g.id := by
  obtain ⟨ρ, alike⟩ := exists_alike settings k moves
  exact ⟨alike.result?_eq (sound_after settings moves), alike.calls, alike.caches.snapshot?_eq,
    ρ, alike.caches.entry, alike.fetches.flights_eq, alike.apart⟩

/-- The numbers of the flights of a key do tell that there are other keys. -/
example :
    let settings : CacheSettings := ⟨1000, 1000, 0, 0⟩
    let moves : List (Move Nat Unit) :=
      [.about .databaseInfo (.read 0 .cached ()), .about .tables (.read 0 .cached ())]
    ((after settings moves).lane .tables).flights.map (·.id) = [2] ∧
      ((after settings (moves.filter (·.concerns .tables))).lane .tables).flights.map (·.id) = [1] := by
  decide

end Traffic

end Cache

end DbConsole

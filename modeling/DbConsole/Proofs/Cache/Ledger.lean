import DbConsole.Proofs.Cache.Lookup
import Mathlib.Data.Set.Insert

/-!
The ledger of a cache: all fetches that were ever started. What an entry waits for stands in it,
with the entry's key and a generation that is not ahead of the entry's.
-/
set_option autoImplicit false

namespace DbConsole.Cache

variable {V J : Type}

/-- A set of fetches tells all that were started in the life of a cache. -/
structure Ledger (c : Cache V J) (started : Set (Flight J)) : Prop where
  once : (c.entries.map Prod.fst).Nodup
  known : ∀ f ∈ c.departures, f ∈ started
  below : ∀ f ∈ started, f.id < c.nextFlight
  unique : ∀ f ∈ started, ∀ g ∈ started, f.id = g.id → f = g
  marked : ∀ key e mark, c.lookup? key = some e → e.flight = some mark →
    mark.generation ≤ e.generation ∧ c.landing? mark.id = none ∧
      ∃ f ∈ started, f.id = mark.id ∧ f.key = key ∧ f.generation = mark.generation
  landed : ∀ id outcome, c.landing? id = some outcome → id < c.nextFlight

/-! ### Keys and landings -/

theorem keys_setIn (key : Key) (e : Entry V) (entries : List (Key × Entry V)) :
    (setIn key e entries).map Prod.fst =
      if key ∈ entries.map Prod.fst then entries.map Prod.fst
      else entries.map Prod.fst ++ [key] := by
  induction entries with
  | nil => simp [setIn]
  | cons p rest ih =>
    by_cases here : p.1 = key
    · simp [setIn, here]
    · have apart : key ≠ p.1 := fun same => here same.symm
      by_cases member : key ∈ rest.map Prod.fst
      · simp only [setIn, here, ↓reduceIte, List.map_cons, ih, member, List.mem_cons, or_true]
      · simp only [setIn, here, ↓reduceIte, List.map_cons, ih, member, List.mem_cons, apart,
          or_self, List.cons_append]

theorem nodup_keys_setIn (key : Key) (e : Entry V) (entries : List (Key × Entry V))
    (once : (entries.map Prod.fst).Nodup) : ((setIn key e entries).map Prod.fst).Nodup := by
  rw [keys_setIn]
  split
  · exact once
  · rename_i absent
    exact List.Nodup.append once (List.nodup_singleton key) (by simpa using absent)

theorem keys_invalidate (c : Cache V J) (filters : List Filter) :
    (c.invalidate filters).entries.map Prod.fst = c.entries.map Prod.fst := by
  simp only [invalidate, List.map_map]
  apply List.map_congr_left
  intro p _
  simp only [Function.comp_apply]
  split <;> rfl

/-- A recording changes the entry that waits for the fetch, or nothing. -/
theorem record_cases (c : Cache V J) (now : Nat) (f : Flight J) (outcome : Except Error V) :
    (∃ e mark, c.lookup? f.key = some e ∧ e.flight = some mark ∧ mark.id = f.id ∧
      c.record now f outcome = c.setEntry f.key (e.landed now f.generation outcome)) ∨
    ((∀ e mark, c.lookup? f.key = some e → e.flight = some mark → mark.id ≠ f.id) ∧
      c.record now f outcome = c) := by
  unfold record
  cases found : c.lookup? f.key with
  | none => exact Or.inr ⟨by simp, rfl⟩
  | some e =>
    by_cases waits : e.flight.map (·.id) = some f.id
    · obtain ⟨mark, held, same⟩ := Option.map_eq_some_iff.mp waits
      exact Or.inl ⟨e, mark, rfl, held, same, by simp [waits]⟩
    · refine Or.inr ⟨?_, by simp [waits]⟩
      intro e' mark equal held same
      cases equal
      exact waits (by simp [held, same])

/-- A recording touches the entries alone. -/
theorem record_eq (c : Cache V J) (now : Nat) (f : Flight J) (outcome : Except Error V) :
    c.record now f outcome = { c with entries := (c.record now f outcome).entries } := by
  rcases record_cases c now f outcome with ⟨e, mark, _, _, _, same⟩ | ⟨_, same⟩
  · rw [same, setEntry]
  · rw [same]

@[simp] theorem nextFlight_land (c : Cache V J) (now : Nat) (f : Flight J)
    (outcome : Except Error V) : (c.land now f outcome).nextFlight = c.nextFlight := by
  rw [land, record_eq]

@[simp] theorem departures_land (c : Cache V J) (now : Nat) (f : Flight J)
    (outcome : Except Error V) : (c.land now f outcome).departures = c.departures := by
  rw [land, record_eq]

theorem landing?_land (c : Cache V J) (now : Nat) (f : Flight J) (outcome : Except Error V)
    (id : Nat) :
    (c.land now f outcome).landing? id = if f.id = id then some outcome else c.landing? id := by
  rw [land, record_eq]
  by_cases same : f.id = id <;> simp [landing?, same]

/-- An entry behind a landing was there before and has not waited for it, or has taken the outcome. -/
theorem lookup?_land_cases {c : Cache V J} {now : Nat} {f : Flight J} {outcome : Except Error V}
    {key : Key} {e : Entry V} (found : (c.land now f outcome).lookup? key = some e) :
    (c.lookup? key = some e ∧
      (f.key = key → ∀ mark, e.flight = some mark → mark.id ≠ f.id)) ∨
    (f.key = key ∧ ∃ old mark, c.lookup? key = some old ∧ old.flight = some mark ∧
      mark.id = f.id ∧ e = old.landed now f.generation outcome) := by
  change (c.record now f outcome).lookup? key = some e at found
  rcases record_cases c now f outcome with ⟨old, mark, before, held, mine, same⟩ | ⟨apart, same⟩ <;>
    rw [same] at found
  · rw [lookup?_setEntry] at found
    split at found
    · rename_i own
      cases found
      exact Or.inr ⟨own, old, mark, own ▸ before, held, mine, rfl⟩
    · rename_i other
      exact Or.inl ⟨found, fun own => absurd own other⟩
  · exact Or.inl ⟨found, fun own mark held => apart e mark (own ▸ found) held⟩

/-- An entry with a flight behind a landing had it before. -/
theorem lookup?_land_of_flight (c : Cache V J) (now : Nat) (f : Flight J)
    (outcome : Except Error V) (key : Key) (e : Entry V) (mark : FlightMark)
    (found : (c.land now f outcome).lookup? key = some e) (held : e.flight = some mark) :
    c.lookup? key = some e ∧ (key = f.key → mark.id ≠ f.id) := by
  rcases lookup?_land_cases found with ⟨before, apart⟩ | ⟨_, _, _, _, _, _, rfl⟩
  · exact ⟨before, fun own => apart own.symm mark held⟩
  · cases outcome <;> cases held

/-! ### What keeps the ledger -/

namespace Ledger

variable {c : Cache V J} {started : Set (Flight J)}

theorem empty (settings : CacheSettings) : Ledger (Cache.empty settings : Cache V J) ∅ where
  once := List.nodup_nil
  known f member := by cases member
  below f member := member.elim
  unique f member := member.elim
  marked key e mark found := by cases found
  landed id outcome found := by cases found

theorem flight_entryForRead (now : Nat) (key : Key) (mark : FlightMark)
    (held : (c.entryForRead now key).flight = some mark) :
    ∃ e, c.lookup? key = some e ∧ e.flight = some mark ∧
      (c.entryForRead now key).generation = e.generation := by
  unfold entryForRead at *
  cases found : c.lookup? key with
  | none => simp [found, Entry.blank] at held
  | some e => exact ⟨e, rfl, by simpa [found] using held, by simp⟩

theorem touch (ledger : Ledger c started) (now : Nat) (key : Key) :
    Ledger (c.setEntry key (c.entryForRead now key)) started where
  once := nodup_keys_setIn key _ _ ledger.once
  known := ledger.known
  below := ledger.below
  unique := ledger.unique
  marked := by
    intro k e mark found held
    rw [lookup?_setEntry] at found
    split at found
    · rename_i same
      cases found
      obtain ⟨e, before, mine, generation⟩ := flight_entryForRead now key mark held
      rw [generation, ← same]
      exact ledger.marked key e mark before mine
    · exact ledger.marked k e mark found held
  landed := ledger.landed

theorem depart (ledger : Ledger c started) (key : Key) (e : Entry V) (job : J) :
    Ledger (c.depart key e job) (insert ⟨c.nextFlight, key, e.generation, job⟩ started) where
  once := nodup_keys_setIn key _ _ ledger.once
  known := by
    intro f member
    rcases List.mem_append.mp member with old | new
    · exact Set.mem_insert_of_mem _ (ledger.known f old)
    · rw [List.mem_singleton.mp new]
      exact Set.mem_insert _ _
  below := by
    intro f member
    change f.id < c.nextFlight + 1
    rcases Set.mem_insert_iff.mp member with rfl | old
    · exact Nat.lt_succ_self _
    · exact Nat.lt_succ_of_lt (ledger.below f old)
  unique := by
    intro f inF g inG same
    rcases Set.mem_insert_iff.mp inF with rfl | oldF <;>
      rcases Set.mem_insert_iff.mp inG with rfl | oldG
    · rfl
    · exact absurd same (Nat.ne_of_gt (ledger.below g oldG))
    · exact absurd same (Nat.ne_of_lt (ledger.below f oldF))
    · exact ledger.unique f oldF g oldG same
  marked := by
    intro k e' mark found held
    by_cases same : key = k
    · subst same
      rw [lookup?_depart_self] at found
      cases found
      cases held
      refine ⟨Nat.le_refl _, ?_, _, Set.mem_insert _ _, rfl, rfl, rfl⟩
      change c.landing? c.nextFlight = none
      cases early : c.landing? c.nextFlight with
      | none => rfl
      | some outcome => exact absurd (ledger.landed _ outcome early) (Nat.lt_irrefl _)
    · rw [lookup?_depart_of_ne c key k e job same] at found
      obtain ⟨ordered, pending, f, member, facts⟩ := ledger.marked k e' mark found held
      exact ⟨ordered, pending, f, Set.mem_insert_of_mem _ member, facts⟩
  landed id outcome found := Nat.lt_succ_of_lt (ledger.landed id outcome found)

/-- A read adds what it lets depart. -/
theorem read (ledger : Ledger c started) (now : Nat) (key : Key) (policy : FetchPolicy) (job : J) :
    Ledger (c.read now key policy job).1
      (started ∪ {f | f ∈ (c.read now key policy job).1.departures}) := by
  rcases read_cache c now key policy job with same | ⟨_, same⟩
  · have nothing : started ∪ {f | f ∈ (c.read now key policy job).1.departures} = started := by
      apply Set.union_eq_self_of_subset_right
      rw [same]
      exact ledger.known
    rw [nothing, same]
    exact ledger.touch now key
  · have added : started ∪ {f | f ∈ (c.read now key policy job).1.departures} =
        insert ⟨c.nextFlight, key, (c.entryForRead now key).generation, job⟩ started := by
      ext f
      rw [same]
      simp only [Cache.depart, Set.mem_union, Set.mem_ofPred_eq, List.mem_append,
        List.mem_singleton, Set.mem_insert_iff]
      constructor
      · rintro (old | old | new)
        · exact Or.inr old
        · exact Or.inr (ledger.known f old)
        · exact Or.inl new
      · rintro (new | old)
        · exact Or.inr (Or.inr new)
        · exact Or.inl old
    rw [added, same]
    exact ledger.depart key _ job

theorem land (ledger : Ledger c started) (now : Nat) (f : Flight J) (member : f ∈ started)
    (outcome : Except Error V) : Ledger (c.land now f outcome) started where
  once := by
    change ((c.record now f outcome).entries.map Prod.fst).Nodup
    rcases record_cases c now f outcome with ⟨e, mark, _, _, _, same⟩ | ⟨_, same⟩ <;> rw [same]
    · exact nodup_keys_setIn f.key _ _ ledger.once
    · exact ledger.once
  known := by
    rw [departures_land]
    exact ledger.known
  below := by
    rw [nextFlight_land]
    exact ledger.below
  unique := ledger.unique
  marked := by
    intro key e mark found held
    obtain ⟨before, apart⟩ := lookup?_land_of_flight c now f outcome key e mark found held
    obtain ⟨ordered, pending, g, inStarted, sameId, sameKey, sameGeneration⟩ :=
      ledger.marked key e mark before held
    refine ⟨ordered, ?_, g, inStarted, sameId, sameKey, sameGeneration⟩
    have other : f.id ≠ mark.id := by
      intro equal
      have isSame := ledger.unique f member g inStarted (equal.trans sameId.symm)
      subst isSame
      exact apart sameKey.symm sameId.symm
    rw [landing?_land]
    simpa [other] using pending
  landed := by
    intro id outcome' found
    rw [nextFlight_land]
    rw [landing?_land] at found
    split at found
    · rename_i same
      rw [← same]
      exact ledger.below f member
    · exact ledger.landed id outcome' found

theorem invalidate (ledger : Ledger c started) (filters : List Filter) :
    Ledger (c.invalidate filters) started where
  once := by
    rw [keys_invalidate]
    exact ledger.once
  known := ledger.known
  below := ledger.below
  unique := ledger.unique
  marked := by
    intro key e mark found held
    rw [lookup?_invalidate] at found
    obtain ⟨e', before, rfl⟩ := Option.map_eq_some_iff.mp found
    by_cases covered : isCovered filters key
    · simp only [covered, ↓reduceIte] at held ⊢
      obtain ⟨ordered, rest⟩ := ledger.marked key e' mark before held
      exact ⟨Nat.le_succ_of_le ordered, rest⟩
    · simp only [covered, Bool.false_eq_true, ↓reduceIte] at held ⊢
      exact ledger.marked key e' mark before held
  landed := ledger.landed

theorem clear (ledger : Ledger c started) : Ledger c.clear started where
  once := List.nodup_nil
  known := ledger.known
  below := ledger.below
  unique := ledger.unique
  marked key e mark found := by cases found
  landed := ledger.landed

theorem collect (ledger : Ledger c started) (now : Nat) : Ledger (c.collect now) started where
  once := ledger.once.sublist (List.filter_sublist.map Prod.fst)
  known := ledger.known
  below := ledger.below
  unique := ledger.unique
  marked key e mark found :=
    ledger.marked key e mark (lookup?_collect c now key e ledger.once found)
  landed := ledger.landed

theorem takeDepartures (ledger : Ledger c started) : Ledger c.takeDepartures.2 started where
  once := ledger.once
  known f member := by cases member
  below := ledger.below
  unique := ledger.unique
  marked := ledger.marked
  landed := ledger.landed

end Ledger

end DbConsole.Cache

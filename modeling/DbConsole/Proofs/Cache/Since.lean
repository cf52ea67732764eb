import DbConsole.Proofs.Cache.Ledger
import DbConsole.Proofs.Cache.Run

/-!
Caches from some point on. Where nothing is left of what was on its way at that point, nothing will be,
whatever happens: what those fetches bring after all is not recorded, even if their keys have been
read again. And of a key there can be a promise: a value that is served is good, a fetch that is
joined has a number that was free at that point, and what such a fetch has brought is good.
-/
set_option autoImplicit false

namespace DbConsole.Cache

variable {V J : Type} {c : Cache V J}

/-! ### Nothing left -/

section Left

variable {least : Nat}

/-- No entry waits for a fetch of a smaller number, and no fetch will have one. -/
structure Since (c : Cache V J) (least : Nat) : Prop where
  next : least ≤ c.nextFlight
  marks : ∀ p ∈ c.entries, ∀ mark, p.2.flight = some mark → least ≤ mark.id

theorem mem_setIn {key : Key} {e : Entry V} {entries : List (Key × Entry V)} {p : Key × Entry V}
    (mem : p ∈ setIn key e entries) : p = (key, e) ∨ p ∈ entries := by
  induction entries with
  | nil => exact .inl (List.mem_singleton.mp mem)
  | cons q rest ih =>
    rw [setIn] at mem
    split at mem
    · exact (List.mem_cons.mp mem).imp_right (.tail q)
    · rcases List.mem_cons.mp mem with rfl | mem
      · exact .inr List.mem_cons_self
      · exact (ih mem).imp_right (.tail q)

theorem mem_of_lookup? {key : Key} {e : Entry V} (found : c.lookup? key = some e) :
    ∃ p ∈ c.entries, p.2 = e := by
  obtain ⟨p, at_, same⟩ := Option.map_eq_some_iff.mp found
  exact ⟨p, List.mem_of_find?_eq_some at_, same⟩

namespace Since

theorem of_empty (next : least ≤ c.nextFlight) (none : c.entries = []) : c.Since least :=
  ⟨next, fun _ mem => absurd (none ▸ mem) List.not_mem_nil⟩

theorem lookup? (since : c.Since least) {key : Key} {e : Entry V} {mark : FlightMark}
    (found : c.lookup? key = some e) (held : e.flight = some mark) : least ≤ mark.id := by
  obtain ⟨p, mem, rfl⟩ := mem_of_lookup? found
  exact since.marks p mem mark held

theorem setEntry (since : c.Since least) (key : Key) {e : Entry V}
    (marked : ∀ mark, e.flight = some mark → least ≤ mark.id) : (c.setEntry key e).Since least where
  next := since.next
  marks p mem mark held := by
    rcases mem_setIn mem with rfl | old
    · exact marked mark held
    · exact since.marks p old mark held

theorem entryForRead (since : c.Since least) (now : Nat) (key : Key) (mark : FlightMark)
    (held : (c.entryForRead now key).flight = some mark) : least ≤ mark.id := by
  rw [Cache.entryForRead] at held
  cases found : c.lookup? key with
  | none =>
    rw [found] at held
    cases held
  | some e =>
    rw [found] at held
    exact since.lookup? found held

theorem read (since : c.Since least) (now : Nat) (key : Key) (policy : FetchPolicy) (job : J) :
    (c.read now key policy job).1.Since least := by
  rcases read_cache c now key policy job with same | ⟨_, same⟩ <;> rw [same]
  · exact since.setEntry key fun mark => since.entryForRead now key mark
  · have departed := since.setEntry key (e := { c.entryForRead now key with
        flight := some ⟨c.nextFlight, (c.entryForRead now key).generation⟩ }) <| by
      rintro _ ⟨⟩
      exact since.next
    exact ⟨Nat.le_succ_of_le departed.next, departed.marks⟩

theorem land (since : c.Since least) (now : Nat) (f : Flight J) (outcome : Except Error V) :
    (c.land now f outcome).Since least := by
  suffices recorded : (c.record now f outcome).Since least from ⟨recorded.next, recorded.marks⟩
  rcases record_cases c now f outcome with ⟨e, _, _, _, _, same⟩ | ⟨_, same⟩ <;> rw [same]
  · refine since.setEntry f.key fun mark held => ?_
    cases outcome <;> cases held
  · exact since

theorem invalidate (since : c.Since least) (filters : List Filter) :
    (c.invalidate filters).Since least where
  next := since.next
  marks p mem mark held := by
    obtain ⟨q, old, rfl⟩ := List.mem_map.mp mem
    refine since.marks q old mark ?_
    split at held <;> exact held

/-- Whatever happens to the cache. -/
theorem event (since : c.Since least) (e : Event V J) : (e.apply c).Since least := by
  cases e with
  | read now key policy job => exact since.read now key policy job
  | land now f outcome => exact since.land now f outcome
  | invalidate filters => exact since.invalidate filters
  | clear => exact .of_empty since.next rfl
  | collect now => exact ⟨since.next, fun p mem => since.marks p (List.mem_of_mem_filter mem)⟩
  | leave reader => exact since

end Since

/-- The numbers of fetches are counted up. -/
theorem Event.nextFlight_le (c : Cache V J) (e : Event V J) :
    c.nextFlight ≤ (e.apply c).nextFlight := by
  cases e with
  | read now key policy job =>
    rcases nextFlight_read c now key policy job with ⟨same, _⟩ | ⟨more, _⟩
    · exact same.ge
    · exact Nat.le_of_lt (more ▸ Nat.lt_succ_self c.nextFlight)
  | land now f outcome => exact (nextFlight_land c now f outcome).ge
  | _ => exact Nat.le_refl _

/-- What nobody waits for is not recorded. -/
theorem entries_land_of_unmarked {f : Flight J}
    (unmarked : ∀ p ∈ c.entries, ∀ mark, p.2.flight = some mark → mark.id ≠ f.id) (now : Nat)
    (outcome : Except Error V) : (c.land now f outcome).entries = c.entries := by
  change (c.record now f outcome).entries = c.entries
  rcases record_cases c now f outcome with ⟨e, mark, found, held, mine, _⟩ | ⟨_, same⟩
  · obtain ⟨p, mem, rfl⟩ := mem_of_lookup? found
    exact absurd mine (unmarked p mem mark held)
  · rw [same]

end Left

/-! ### Promises -/

section Promises

variable {started : Set (Flight J)}

theorem Ledger.event (ledger : Ledger c started) (e : Event V J) (apart : e.lands = false) :
    ∃ started', started ⊆ started' ∧ Ledger (e.apply c) started' ∧
      ∀ f ∈ started', f ∈ started ∨ f.id = c.nextFlight := by
  cases e with
  | read now key policy job =>
    refine ⟨_, Set.subset_union_left, ledger.read now key policy job, fun f member => ?_⟩
    rcases member with old | new
    · exact Or.inl old
    · rcases nextFlight_read c now key policy job with ⟨_, same⟩ | ⟨_, added⟩
      · exact Or.inl (ledger.known f (same ▸ new))
      · rw [Set.mem_ofPred_eq, added] at new
        rcases List.mem_append.mp new with old | last
        · exact Or.inl (ledger.known f old)
        · exact Or.inr (by rw [List.mem_singleton.mp last])
  | land now flight outcome => cases apart
  | invalidate filters => exact ⟨started, le_rfl, ledger.invalidate filters, fun f => Or.inl⟩
  | clear => exact ⟨started, le_rfl, ledger.clear, fun f => Or.inl⟩
  | collect now => exact ⟨started, le_rfl, ledger.collect now, fun f => Or.inl⟩
  | leave reader => exact ⟨started, le_rfl, ledger, fun f => Or.inl⟩

/-- From a number of fetches on, all that is served, joined and brought of the key is good. -/
structure Promise (c : Cache V J) (started : Set (Flight J)) (key : Key) (least : Nat)
    (good : V → Prop) : Prop where
  ledger : Ledger c started
  trusts : Trusts c key least good
  brings : ∀ f ∈ started, f.key = key → least ≤ f.id → ∀ v, c.landing? f.id = some (.ok v) → good v

namespace Promise

variable {key : Key} {least : Nat} {good : V → Prop}

theorem mono {better : V → Prop} (promise : Promise c started key least good)
    (weaker : ∀ v, good v → better v) : Promise c started key least better where
  ledger := promise.ledger
  trusts := promise.trusts.mono weaker
  brings f member same later v landed := weaker v (promise.brings f member same later v landed)

/-- With nothing there to be served or joined, everything is yet to come. -/
theorem of_none (ledger : Ledger c started) (value : c.trusted? key = none)
    (flight : c.underway? key = none) : Promise c started key c.nextFlight good where
  ledger := ledger
  trusts := .of_none value flight
  brings f member _ later := absurd (ledger.below f member) (Nat.not_lt.mpr later)

theorem event (promise : Promise c started key least good) (e : Event V J)
    (apart : e.lands = false) :
    ∃ started', started ⊆ started' ∧ Promise (e.apply c) started' key least good := by
  obtain ⟨started', more, ledger', added⟩ := promise.ledger.event e apart
  refine ⟨started', more, ledger', ?_, fun f member same later v landed => ?_⟩
  · cases e with
    | read now k policy job => exact promise.trusts.read now k policy job
    | land now flight outcome => cases apart
    | invalidate filters => exact promise.trusts.invalidate promise.ledger filters
    | clear => exact promise.trusts.clear
    | collect now => exact promise.trusts.collect promise.ledger now
    | leave reader => exact promise.trusts
  · rw [e.landing?_apply c apart] at landed
    rcases added f member with old | new
    · exact promise.brings f old same later v landed
    · have below := promise.ledger.landed f.id _ landed
      omega

theorem land (promise : Promise c started key least good) (now : Nat) (f : Flight J)
    (member : f ∈ started) (outcome : Except Error V)
    (good_of : f.key = key → least ≤ f.id → ∀ v, outcome = .ok v → good v) :
    Promise (c.land now f outcome) started key least good where
  ledger := promise.ledger.land now f member outcome
  trusts := promise.trusts.land promise.ledger now f member outcome good_of
  brings g inStarted same later v landed := by
    rw [landing?_land] at landed
    split at landed
    · rename_i sameId
      cases promise.ledger.unique f member g inStarted sameId
      exact good_of same later v (Option.some.inj landed)
    · exact promise.brings g inStarted same later v landed

theorem takeDepartures (promise : Promise c started key least good) :
    Promise c.takeDepartures.2 started key least good where
  ledger := promise.ledger.takeDepartures
  trusts := ⟨promise.trusts.value, promise.trusts.flight, promise.trusts.least_le⟩
  brings := promise.brings

end Promise

end Promises

end DbConsole.Cache

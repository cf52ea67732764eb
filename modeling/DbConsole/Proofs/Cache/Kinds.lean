import DbConsole.Proofs.Cache.Since

/-!
Values of the right kind. A cache stores what its fetches bring under the keys that they are for, so if
each of them brings only what fits its key, all that is stored, served and waited for fits.
-/
set_option autoImplicit false

namespace DbConsole.Cache

variable {V J : Type}

/-- What is stored under a key, and what has been brought by a fetch for one, fits the key. -/
structure Kinded (fits : Key → Except Error V → Prop) (c : Cache V J) (started : Set (Flight J)) :
    Prop where
  ledger : Ledger c started
  stored : ∀ k e v, c.lookup? k = some e → e.value = some v → fits k (.ok v)
  brought : ∀ id outcome, c.landing? id = some outcome → ∃ f ∈ started, f.id = id ∧ fits f.key outcome

/-- What a reader of the key has been given fits the key, or will when the fetch has landed. -/
def Due (fits : Key → Except Error V → Prop) (started : Set (Flight J)) (k : Key) : Reading V → Prop
  | .served v => fits k (.ok v)
  | .awaiting id => ∃ f ∈ started, f.id = id ∧ f.key = k

namespace Kinded

variable {fits : Key → Except Error V → Prop} {c : Cache V J} {started : Set (Flight J)} {k : Key}

theorem empty (settings : CacheSettings) : Kinded fits (.empty settings : Cache V J) ∅ where
  ledger := .empty settings
  stored _ _ _ found := nomatch found
  brought _ _ found := nomatch found

theorem value_entryForRead (kinded : Kinded fits c started) (now : Nat) (k : Key) {v : V}
    (value : (c.entryForRead now k).value = some v) : fits k (.ok v) := by
  unfold entryForRead at value
  cases found : c.lookup? k with
  | none =>
    rw [found] at value
    cases value
  | some e =>
    rw [found] at value
    exact kinded.stored k e v found value

theorem value_landed {e : Entry V} {now generation : Nat} {outcome : Except Error V} {v : V}
    (value : (e.landed now generation outcome).value = some v) : e.value = some v ∨ outcome = .ok v := by
  cases outcome with
  | ok w => exact .inr (congrArg Except.ok (Option.some.inj value))
  | error err => exact .inl value

/-- What is stored behind a read was stored before. -/
theorem stored_read (kinded : Kinded fits c started) {now : Nat} {key : Key} {policy : FetchPolicy}
    {job : J} {e : Entry V} {v : V} (found : (c.read now key policy job).1.lookup? k = some e)
    (value : e.value = some v) : fits k (.ok v) := by
  by_cases here : key = k
  · subst here
    refine kinded.value_entryForRead now key ?_
    obtain ⟨_, same⟩ := c.exists_lookup?_read_self now key policy job
    rw [same] at found
    cases found
    exact value
  · exact kinded.stored k e v ((lookup?_read_of_ne policy here).symm.trans found) value

/-- What brings nothing keeps all of the right kind. -/
theorem event (kinded : Kinded fits c started) (e : Event V J) (quiet : e.lands = false) :
    ∃ started', started ⊆ started' ∧ Kinded fits (e.apply c) started' := by
  obtain ⟨started', more, ledger, _⟩ := kinded.ledger.event e quiet
  refine ⟨started', more, ledger, fun k entry v found value => ?_, fun id outcome landed => ?_⟩
  · cases e with
    | read now key policy job => exact kinded.stored_read found value
    | land now f outcome => cases quiet
    | invalidate filters =>
      change (c.invalidate filters).lookup? k = some entry at found
      rw [lookup?_invalidate] at found
      obtain ⟨old, before, rfl⟩ := Option.map_eq_some_iff.mp found
      refine kinded.stored k old v before ?_
      split at value <;> exact value
    | clear => cases found
    | collect now =>
      exact kinded.stored k entry v (lookup?_collect c now k entry kinded.ledger.once found) value
    | leave reader => exact kinded.stored k entry v found value
  · rw [e.landing?_apply c quiet] at landed
    obtain ⟨f, mem, number, fit⟩ := kinded.brought id outcome landed
    exact ⟨f, more mem, number, fit⟩

theorem land (kinded : Kinded fits c started) (now : Nat) {f : Flight J} (mem : f ∈ started)
    {outcome : Except Error V} (fit : fits f.key outcome) : Kinded fits (c.land now f outcome) started where
  ledger := kinded.ledger.land now f mem outcome
  stored k entry v found value := by
    rcases lookup?_land_cases found with ⟨before, _⟩ | ⟨rfl, old, _, before, _, _, rfl⟩
    · exact kinded.stored k entry v before value
    · rcases value_landed value with kept | rfl
      · exact kinded.stored f.key old v before kept
      · exact fit
  brought id brings landed := by
    rw [landing?_land] at landed
    split at landed
    · rename_i own
      cases landed
      exact ⟨f, mem, own, fit⟩
    · exact kinded.brought id brings landed

theorem takeDepartures (kinded : Kinded fits c started) : Kinded fits c.takeDepartures.2 started :=
  ⟨kinded.ledger.takeDepartures, kinded.stored, kinded.brought⟩

/-- What has been brought by a fetch for the key fits the key. -/
theorem fits_of_landing? (kinded : Kinded fits c started) {f : Flight J} (mem : f ∈ started)
    {outcome : Except Error V} (landed : c.landing? f.id = some outcome) : fits f.key outcome := by
  obtain ⟨g, among, number, fit⟩ := kinded.brought f.id outcome landed
  exact kinded.ledger.unique g among f mem number ▸ fit

/-- What a read of the key gives is of the right kind, where `started'` tells all that has been started
behind it. -/
theorem due_read (kinded : Kinded fits c started) {started' : Set (Flight J)} {now : Nat}
    {policy : FetchPolicy} {job : J}
    (kinded' : Kinded fits (c.read now k policy job).1 started') :
    Due fits started' k (c.read now k policy job).2 := by
  cases reading : (c.read now k policy job).2 with
  | served v =>
    obtain ⟨_, trusted⟩ := trusted?_of_served c now k policy job v reading
    obtain ⟨e, found, usable⟩ := Option.bind_eq_some_iff.mp trusted
    refine kinded.stored k e v found ?_
    rw [Entry.usable?] at usable
    split at usable
    · cases usable
    · exact usable
  | awaiting id =>
    exact (kinded'.ledger.underway k id (underway?_of_awaiting c now k policy job id reading)).2

end Kinded

theorem Due.mono {fits : Key → Except Error V → Prop} {started started' : Set (Flight J)} {k : Key}
    {reading : Reading V} (due : Due fits started k reading) (more : started ⊆ started') :
    Due fits started' k reading := by
  cases reading with
  | served v => exact due
  | awaiting id =>
    obtain ⟨f, mem, facts⟩ := due
    exact ⟨f, more mem, facts⟩

end DbConsole.Cache

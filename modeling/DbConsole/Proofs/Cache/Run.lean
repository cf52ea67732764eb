import DbConsole.Cache.Fetch
import DbConsole.Proofs.Cache.Trust

/-!
Runs of a cache: whatever happens to it, in whatever order. Nobody takes the departures of a run
away, so they tell all fetches that were started.
-/
set_option autoImplicit false

namespace DbConsole.Cache

variable {V J : Type}

/-- A cache together with the time. -/
instance : HasCache (Cache V J × Nat) V J where
  cache := Prod.fst
  setCache s c := (c, s.2)
  now := Prod.snd

theorem ofKind_eq_ok {α : Type} {key : Key} {cast : V → Option α} {v : V} {a : α}
    (ok : ofKind key cast v = .ok a) : cast v = some a := by
  unfold ofKind at ok
  split at ok
  · rename_i b same
    cases ok
    exact same
  · cases ok

/-- What happens between two points where others may come in. -/
inductive Event (V J : Type) where
  | read (now : Nat) (key : Key) (policy : FetchPolicy) (job : J)
  /-- A fetch ends with an outcome. -/
  | land (now : Nat) (flight : Flight J) (outcome : Except Error V)
  | invalidate (filters : List Filter)
  | clear
  | collect (now : Nat)
  /-- A reader, who began at that point, is cancelled. -/
  | leave (reader : Nat)

namespace Event

def apply (c : Cache V J) : Event V J → Cache V J
  | .read now key policy job => (c.read now key policy job).1
  | .land now flight outcome => c.land now flight outcome
  | .invalidate filters => c.invalidate filters
  | .clear => c.clear
  | .collect now => c.collect now
  | .leave _ => c

/-- Whether what is known of the key is no longer to be trusted. -/
def forgets (key : Key) : Event V J → Bool
  | .invalidate filters => isCovered filters key
  | .clear => true
  | _ => false

def lands : Event V J → Bool
  | .land _ _ _ => true
  | _ => false

theorem landing?_apply (c : Cache V J) (e : Event V J) (apart : e.lands = false) (id : Nat) :
    (e.apply c).landing? id = c.landing? id := by
  cases e with
  | read now key policy job => exact landing?_read c now key policy job id
  | land now flight outcome => cases apart
  | _ => rfl

theorem forgets_iff (key : Key) (e : Event V J) :
    e.forgets key = true ↔
      e = .clear ∨ ∃ filters, e = .invalidate filters ∧ isCovered filters key = true := by
  cases e <;> simp [forgets]

end Event

/-- The cache after so many events. -/
def after (settings : CacheSettings) (event : Nat → Event V J) : Nat → Cache V J
  | 0 => .empty settings
  | n + 1 => (event n).apply (after settings event n)

/-- A life of a cache from its beginning: a fetch ends once, after it was started. -/
structure Run (V J : Type) where
  settings : CacheSettings
  event : Nat → Event V J
  lands : ∀ n now flight outcome, event n = .land now flight outcome →
    flight ∈ (after settings event n).departures ∧
      (after settings event n).landing? flight.id = none

namespace Run

variable (r : Run V J)

def cache (n : Nat) : Cache V J :=
  after r.settings r.event n

theorem cache_succ (n : Nat) : r.cache (n + 1) = (r.event n).apply (r.cache n) := rfl

/-- The fetch is started at this point. -/
def Starts (n : Nat) (f : Flight J) : Prop :=
  (r.cache (n + 1)).departures = (r.cache n).departures ++ [f]

/-- What the read that began at a point has come to at a later one, for a reader who wants a value
of a kind. -/
def result? {α : Type} (cast : V → Option α) (start n : Nat) : Option (Except Error α) :=
  match r.event start with
  | .read now key policy job =>
    outcome? key cast ((r.cache start).read now key policy job).2 (r.cache n, now)
  | _ => none

/-! ### The ledger of a run -/

/-- An event starts one fetch, or none. -/
theorem cache_step (n : Nat) :
    ((r.cache (n + 1)).nextFlight = (r.cache n).nextFlight ∧
      (r.cache (n + 1)).departures = (r.cache n).departures) ∨
    ((r.cache (n + 1)).nextFlight = (r.cache n).nextFlight + 1 ∧
      ∃ f, f.id = (r.cache n).nextFlight ∧ r.Starts n f) := by
  unfold Starts
  rw [cache_succ]
  cases r.event n with
  | read now key policy job =>
    rcases nextFlight_read (r.cache n) now key policy job with same | ⟨more, added⟩
    · exact Or.inl same
    · exact Or.inr ⟨more, _, rfl, added⟩
  | land now flight outcome => exact Or.inl ⟨nextFlight_land _ _ _ _, departures_land _ _ _ _⟩
  | invalidate filters => exact Or.inl ⟨rfl, rfl⟩
  | clear => exact Or.inl ⟨rfl, rfl⟩
  | collect now => exact Or.inl ⟨rfl, rfl⟩
  | leave reader => exact Or.inl ⟨rfl, rfl⟩

theorem departures_mono (n m : Nat) (later : n ≤ m) :
    (r.cache n).departures ⊆ (r.cache m).departures := by
  induction m, later using Nat.le_induction with
  | base => exact List.Subset.refl _
  | succ m _ ih =>
    rcases r.cache_step m with ⟨_, same⟩ | ⟨_, f, _, added⟩
    · exact same ▸ ih
    · intro g member
      rw [added]
      exact List.mem_append_left _ (ih member)

theorem nextFlight_mono (n m : Nat) (later : n ≤ m) :
    (r.cache n).nextFlight ≤ (r.cache m).nextFlight := by
  induction m, later using Nat.le_induction with
  | base => exact Nat.le_refl _
  | succ m _ ih =>
    rcases r.cache_step m with ⟨same, _⟩ | ⟨more, _⟩ <;> omega

/-- The departures of a run are its ledger. -/
theorem ledger (n : Nat) : Ledger (r.cache n) {f | f ∈ (r.cache n).departures} := by
  induction n with
  | zero =>
    have none : {f : Flight J | f ∈ (r.cache 0).departures} = ∅ := by
      ext f
      exact List.mem_nil_iff f
    rw [none]
    exact Ledger.empty r.settings
  | succ n ih =>
    rw [cache_succ]
    cases happens : r.event n with
    | read now key policy job =>
      have grown := ih.read now key policy job
      rwa [Set.union_eq_self_of_subset_left] at grown
      have more := r.departures_mono n (n + 1) (Nat.le_succ n)
      rw [cache_succ, happens] at more
      exact more
    | land now flight outcome =>
      have landed := ih.land now flight (r.lands n now flight outcome happens).1 outcome
      simpa only [Event.apply, departures_land] using landed
    | invalidate filters => exact ih.invalidate filters
    | clear => exact ih.clear
    | collect now => exact ih.collect now
    | leave reader => exact ih

/-- A fetch that stands in the ledger was started at some point, with the next number there. -/
theorem started (n : Nat) (f : Flight J) (member : f ∈ (r.cache n).departures) :
    ∃ start, start < n ∧ r.Starts start f ∧ (r.cache (start + 1)).nextFlight = f.id + 1 := by
  induction n with
  | zero => cases member
  | succ n ih =>
    rcases r.cache_step n with ⟨_, same⟩ | ⟨more, g, isNext, added⟩
    · obtain ⟨start, before, facts⟩ := ih (same ▸ member)
      exact ⟨start, by omega, facts⟩
    · have given := added
      rw [Starts] at given
      rw [given] at member
      rcases List.mem_append.mp member with old | new
      · obtain ⟨start, before, facts⟩ := ih old
        exact ⟨start, by omega, facts⟩
      · obtain rfl := List.mem_singleton.mp new
        exact ⟨n, Nat.lt_succ_self n, added, by rw [more, isNext]⟩

/-! ### The landings of a run -/

theorem landing?_step (n id : Nat) :
    (r.cache (n + 1)).landing? id = (r.cache n).landing? id ∨
      ∃ now f outcome, r.event n = .land now f outcome ∧ f.id = id ∧
        (r.cache (n + 1)).landing? id = some outcome := by
  rw [cache_succ]
  cases happens : r.event n with
  | land now f outcome =>
    rw [Event.apply, landing?_land]
    by_cases mine : f.id = id
    · exact Or.inr ⟨now, f, outcome, rfl, mine, by simp [mine]⟩
    · exact Or.inl (by simp [mine])
  | _ => exact Or.inl (Event.landing?_apply _ _ rfl id)

/-- What has landed since a point landed in an event behind that point. -/
theorem landed_between (n m id : Nat) (outcome : Except Error V) (later : n ≤ m)
    (pending : (r.cache n).landing? id = none) (found : (r.cache m).landing? id = some outcome) :
    ∃ finish now f, n ≤ finish ∧ finish < m ∧ r.event finish = .land now f outcome ∧
      f.id = id := by
  induction m, later using Nat.le_induction with
  | base => simp [pending] at found
  | succ m reached ih =>
    rcases r.landing?_step m id with same | ⟨now, f, outcome', happens, mine, brought⟩
    · obtain ⟨finish, now, f, behind, before, facts⟩ := ih (same ▸ found)
      exact ⟨finish, now, f, behind, by omega, facts⟩
    · rw [found] at brought
      cases brought
      exact ⟨m, now, f, reached, Nat.lt_succ_self m, happens, mine⟩

/-- What a fetch has brought stays what it has brought, since no fetch lands twice. -/
theorem landing?_of_land (finish n now : Nat) (f : Flight J) (outcome : Except Error V)
    (happens : r.event finish = .land now f outcome) (later : finish < n) :
    (r.cache n).landing? f.id = some outcome := by
  induction n, later using Nat.le_induction with
  | base =>
    change (r.cache (finish + 1)).landing? f.id = some outcome
    rw [cache_succ, happens, Event.apply, landing?_land, if_pos rfl]
  | succ n _ ih =>
    rcases r.landing?_step n f.id with same | ⟨now', g, outcome', lands, mine, _⟩
    · rw [same]
      exact ih
    · have pending := (r.lands n now' g outcome' lands).2
      have landed : (r.cache n).landing? g.id = some outcome := mine ▸ ih
      cases landed.symm.trans pending

theorem pending_of_landing? {m n : Nat} {f : Flight J} (pending : (r.cache n).landing? f.id = none)
    (before : m < n) (now : Nat) (outcome : Except Error V) : r.event m ≠ .land now f outcome := by
  intro lands
  have landed := r.landing?_of_land m n now f outcome lands before
  cases landed.symm.trans pending

end Run

end DbConsole.Cache

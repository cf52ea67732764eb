import DbConsole.Proofs.Cache.Attempts
import Mathlib.Algebra.BigOperators.Group.Finset.Piecewise

/-!
What the fetches of the keys have been told and how often they have asked, while all else goes on around
them. A move brings the one fetch on that it is about, if that can go on, and leaves all other ones where
they are.
-/
set_option autoImplicit false

namespace DbConsole.Cache

variable {V J : Type}

/-- Whether the move is about the one fetch. -/
def Move.tends (k : Key) (i : Nat) : Move V J → Bool
  | .about key (.visit _ fetch) => key == k && fetch == i
  | .about key (.answer fetch _) => key == k && fetch == i
  | _ => false

/-- Whether the move brings the fetch on, which has got so far. -/
def Move.furthers (k : Key) (i : Nat) (leg : Leg V J) : Move V J → Prop
  | .about key (.visit now fetch) => key = k ∧ fetch = i ∧ (leg.task? now).isSome = true
  | .about key (.answer fetch _) => key = k ∧ fetch = i ∧ ∃ next, leg = .asking next
  | _ => False

theorem Move.tends_iff {k : Key} {i : Nat} {m : Move V J} :
    m.tends k i = true ↔
      (∃ now, m = .about k (.visit now i)) ∨ ∃ outcome, m = .about k (.answer i outcome) := by
  constructor
  · intro tends
    unfold Move.tends at tends
    split at tends
    · rename_i now fetch
      obtain ⟨rfl, rfl⟩ : _ = k ∧ fetch = i := by simpa using tends
      exact .inl ⟨now, rfl⟩
    · rename_i fetch outcome
      obtain ⟨rfl, rfl⟩ : _ = k ∧ fetch = i := by simpa using tends
      exact .inr ⟨outcome, rfl⟩
    · cases tends
  · rintro (⟨now, rfl⟩ | ⟨outcome, rfl⟩) <;> simp [Move.tends]

namespace Traffic

/-- What a fetch of the key is told in the move, if it has asked. -/
def told? (t : Traffic V J) (k : Key) (i : Nat) : Move V J → Option (Except Error V)
  | .about key (.answer fetch outcome) =>
    match (t.lane k).fetches[i]? with
    | some (_, .asking _) => if key = k ∧ fetch = i then some outcome else none
    | _ => none
  | _ => none

/-- How often a fetch of the key asks for its job in the move. -/
def asks (t : Traffic V J) (k : Key) (i : Nat) (m : Move V J) : Nat :=
  match m with
  | .about key (.visit _ fetch) =>
    if key = k ∧ fetch = i then ((t.step m).lane k).calls.length - (t.lane k).calls.length else 0
  | _ => 0

variable {t : Traffic V J} {k : Key} {i : Nat} {m : Move V J}

theorem told?_of_apart (apart : m.tends k i = false) : t.told? k i m = none := by
  unfold told?
  split
  · rename_i key fetch outcome
    have other : ¬ (key = k ∧ fetch = i) := by simpa [Move.tends] using apart
    split
    · rw [if_neg other]
    · rfl
  · rfl

theorem asks_of_apart (apart : m.tends k i = false) : t.asks k i m = 0 := by
  unfold asks
  split
  · rename_i key now fetch
    exact if_neg (by simpa [Move.tends] using apart)
  · rfl

/-- What is known of the fetches behind some traffic: each has been told of its failures and asked as
often as its stage says, and they have got their numbers in turn. -/
structure Tracked (settings : CacheSettings) (t : Traffic V J) (told : Key → Nat → List (Except Error V))
    (asked : Key → Nat → Nat) : Prop where
  same : t.cache.settings = settings
  ordered : ∀ k, (t.lane k).flights.Pairwise (·.id < ·.id)
  unstarted : ∀ k i, (t.lane k).fetches[i]? = none → told k i = [] ∧ asked k i = 0
  stage : ∀ k i f leg, (t.lane k).fetches[i]? = some (f, leg) →
    Stage settings f leg (told k i) (asked k i) (t.cache.landing? f.id)

section Visits

variable {f : Flight J} {leg : Leg V J} {task : FetchTask V J} {now : Nat}

theorem lane_visit (t : Traffic V J) (k : Key) (now i : Nat) :
    (t.step (.about k (.visit now i))).lane k = (Errand.visiting now i t.cache (t.lane k)).2 :=
  lane_step_self ..

theorem lane_visit_of_absent (absent : (t.lane k).fetches[i]? = none) (now : Nat) :
    (t.step (.about k (.visit now i))).lane k = t.lane k := by
  rw [lane_visit, Errand.visiting, absent]

theorem visiting_of_ready (found : (t.lane k).fetches[i]? = some (f, leg))
    (ready : leg.task? now = some task) :
    (t.step (.about k (.visit now i))).cache = (task.advance (t.cache, now)).1.1 ∧
      ((t.step (.about k (.visit now i))).lane k).fetches[i]? =
        some (f, .resting now (task.advance (t.cache, now)).2) ∧
      t.asks k i (.about k (.visit now i)) =
        (asks? (task.advance (t.cache, now)).1 (task.advance (t.cache, now)).2).toList.length := by
  have visits : Errand.visiting now i t.cache (t.lane k) =
      ((task.advance (t.cache, now)).1.1,
        { t.lane k with
          fetches := (t.lane k).fetches.modify i fun p =>
            (p.1, .resting now (task.advance (t.cache, now)).2)
          calls := (t.lane k).calls ++ ((asks? (task.advance (t.cache, now)).1
            (task.advance (t.cache, now)).2).map (now, ·)).toList }) := by
    rw [Errand.visiting, found]
    dsimp only
    rw [ready]
  refine ⟨congrArg Prod.fst visits, ?_, ?_⟩
  · rw [lane_visit, visits]
    exact (List.getElem?_modify_eq _ _ _).trans (congrArg _ found)
  · rw [asks, if_pos ⟨rfl, rfl⟩, lane_visit, visits]
    cases asks? (task.advance (t.cache, now)).1 (task.advance (t.cache, now)).2 <;> simp

theorem visiting_of_not_ready (found : (t.lane k).fetches[i]? = some (f, leg))
    (ready : leg.task? now = none) :
    (t.step (.about k (.visit now i))).cache = t.cache ∧
      ((t.step (.about k (.visit now i))).lane k).fetches[i]? = some (f, leg) ∧
      t.asks k i (.about k (.visit now i)) = 0 := by
  have visits : Errand.visiting now i t.cache (t.lane k) = (t.cache, t.lane k) := by
    rw [Errand.visiting, found]
    dsimp only
    rw [ready]
  refine ⟨congrArg Prod.fst visits, ?_, ?_⟩
  · rw [lane_visit, visits, found]
  · rw [asks, if_pos ⟨rfl, rfl⟩, lane_visit, visits, Nat.sub_self]

end Visits

namespace Tracked

variable {settings : CacheSettings} {told : Key → Nat → List (Except Error V)} {asked : Key → Nat → Nat}
  {f g : Flight J} {leg leg' : Leg V J} {key : Key} {j now : Nat}

theorem empty (settings : CacheSettings) :
    Tracked settings (Traffic.empty settings : Traffic V J) (fun _ _ => []) fun _ _ => 0 where
  same := rfl
  ordered _ := .nil
  unstarted _ _ _ := ⟨rfl, rfl⟩
  stage _ _ _ _ found := nomatch found

/-- Different fetches have different numbers. -/
theorem id_ne (tracked : Tracked settings t told asked) (sound : t.Sound)
    (found : (t.lane k).fetches[i]? = some (f, leg)) (found' : (t.lane key).fetches[j]? = some (g, leg'))
    (other : ¬ (key = k ∧ j = i)) : g.id ≠ f.id := by
  intro same
  have flight : (t.lane k).flights[i]? = some f := by rw [Lane.flights, List.getElem?_map, found]; rfl
  have flight' : (t.lane key).flights[j]? = some g := by rw [Lane.flights, List.getElem?_map, found']; rfl
  have mem := List.mem_of_getElem? flight
  have mem' := List.mem_of_getElem? flight'
  obtain rfl := sound.ledger.unique g ⟨key, mem'⟩ f ⟨k, mem⟩ same
  have here : key = k := (sound.keyed key g mem').symm.trans (sound.keyed k g mem)
  subst here
  have once : (t.lane key).flights.Nodup := (tracked.ordered key).imp fun less same => by
    rw [same] at less
    exact Nat.lt_irrefl _ less
  have bound : j < (t.lane key).flights.length := (List.getElem?_eq_some_iff.mp flight').1
  exact other ⟨rfl, (List.getElem?_inj bound once).mp (flight'.trans flight.symm)⟩

theorem fetches_visiting_of_ne (c : Cache V J) (l : Lane V J) (other : j ≠ i) :
    (Errand.visiting now j c l).2.fetches[i]? = l.fetches[i]? := by
  unfold Errand.visiting
  split
  · split
    · exact List.getElem?_modify_ne _ _ other
    · rfl
  · rfl

theorem fetches_answer (found : (t.lane k).fetches[i]? = some (f, leg)) (outcome : Except Error V) :
    ((t.step (.about k (.answer i outcome))).lane k).fetches[i]? = some (f, leg.answered outcome) := by
  rw [lane_step_self]
  exact (List.getElem?_modify_eq _ _ _).trans (congrArg _ found)

/-- What a visit to a fetch leaves in the cache. -/
theorem cache_visiting (tracked : Tracked settings t told asked) (key : Key) (j now : Nat) :
    (Errand.visiting now j t.cache (t.lane key)).1 = t.cache ∨
      ∃ g leg outcome, (t.lane key).fetches[j]? = some (g, leg) ∧ t.cache.landing? g.id = none ∧
        (Errand.visiting now j t.cache (t.lane key)).1 = t.cache.land now g outcome := by
  unfold Errand.visiting
  split
  · rename_i p found
    split
    · rename_i task ready
      obtain ⟨rest, ⟨ran, _⟩ | ⟨outcome, pending, ran, _⟩⟩ :=
        (tracked.stage key j p.1 p.2 found).visited ready t.cache
      · exact .inl (by rw [ran])
      · exact .inr ⟨p.1, p.2, outcome, found, pending, by rw [ran]⟩
    · exact .inl rfl
  · exact .inl rfl

/-- A move that is not about the fetch leaves it where it is. -/
theorem step_apart (tracked : Tracked settings t told asked) (sound : t.Sound)
    (found : (t.lane k).fetches[i]? = some (f, leg)) (apart : m.tends k i = false) :
    ((t.step m).lane k).fetches[i]? = some (f, leg) ∧
      (t.step m).cache.landing? f.id = t.cache.landing? f.id := by
  cases m with
  | about key errand =>
    have lane : ((t.step (.about key errand)).lane k).fetches[i]? = (t.lane k).fetches[i]? := by
      by_cases here : key = k
      · subst here
        rw [lane_step_self]
        cases errand with
        | read now policy job => exact List.getElem?_append_left (List.getElem?_eq_some_iff.mp found).1
        | leave reader => rfl
        | visit now j => exact fetches_visiting_of_ne _ _ (by simpa [Move.tends] using apart)
        | answer j outcome =>
          exact List.getElem?_modify_ne _ _ (by simpa [Move.tends] using apart)
      · rw [lane_step_of_ne t errand here]
    refine ⟨lane.trans found, ?_⟩
    cases errand with
    | read now policy job => exact landing?_read _ _ _ _ _ _
    | leave reader => rfl
    | answer j outcome => rfl
    | visit now j =>
      rcases tracked.cache_visiting key j now with same | ⟨g, leg', outcome, found', _, same⟩
      · exact congrArg (·.landing? f.id) same
      · refine (congrArg (·.landing? f.id) same).trans ?_
        have other : ¬ (key = k ∧ j = i) := by simpa [Move.tends] using apart
        rw [landing?_land, if_neg (tracked.id_ne sound found found' other)]
  | _ => exact ⟨found, rfl⟩

/-- Nothing becomes of a fetch of the key in a move that does not bring it on. -/
theorem step_idle (tracked : Tracked settings t told asked) (sound : t.Sound)
    (found : (t.lane k).fetches[i]? = some (f, leg)) (idle : ¬ m.furthers k i leg) :
    ((t.step m).lane k).fetches[i]? = some (f, leg) ∧ t.told? k i m = none ∧ t.asks k i m = 0 ∧
      (t.step m).cache.landing? f.id = t.cache.landing? f.id := by
  cases tends : m.tends k i with
  | false =>
    obtain ⟨fetches, landing⟩ := tracked.step_apart sound found tends
    exact ⟨fetches, told?_of_apart tends, asks_of_apart tends, landing⟩
  | true =>
    rcases Move.tends_iff.mp tends with ⟨now, rfl⟩ | ⟨outcome, rfl⟩
    · have unready : leg.task? now = none := by simpa [Move.furthers] using idle
      obtain ⟨cache, fetches, asks⟩ := visiting_of_not_ready found unready
      exact ⟨fetches, rfl, asks, by rw [cache]⟩
    · have deaf : ∀ next, leg ≠ .asking next := by simpa [Move.furthers] using idle
      obtain ⟨same, told⟩ : leg.answered outcome = leg ∧
          t.told? k i (.about k (.answer i outcome)) = none := by
        cases leg with
        | asking next => exact absurd rfl (deaf next)
        | ready | asleep => exact ⟨rfl, by simp [told?, found]⟩
      refine ⟨?_, told, rfl, rfl⟩
      rw [fetches_answer found, same]

/-- A move that brings a fetch of the key on lets it land, if it has not yet, or come nearer to that. -/
theorem step_furthered (tracked : Tracked settings t told asked)
    (found : (t.lane k).fetches[i]? = some (f, leg)) (furthers : m.furthers k i leg) :
    ∃ leg', ((t.step m).lane k).fetches[i]? = some (f, leg') ∧
      Stage settings f leg' (told k i ++ (t.told? k i m).toList) (asked k i + t.asks k i m)
        ((t.step m).cache.landing? f.id) ∧
      (t.cache.landing? f.id = none → (t.step m).cache.landing? f.id = none →
        leg.progress (told k i).length (asked k i) <
          leg'.progress (told k i ++ (t.told? k i m).toList).length (asked k i + t.asks k i m)) := by
  have stage := tracked.stage k i f leg found
  cases m with
  | about key errand =>
    cases errand with
    | visit now j =>
      obtain ⟨rfl, rfl, ready⟩ := furthers
      obtain ⟨task, ready⟩ := Option.isSome_iff_exists.mp ready
      obtain ⟨cache, fetches, asks⟩ := visiting_of_ready found ready
      have silent : t.told? key j (.about key (.visit now j)) = none := rfl
      obtain ⟨rest, ⟨ran, stage, further⟩ | ⟨outcome, _, ran, quiet, stage⟩⟩ :=
        stage.visited ready t.cache <;> rw [ran] at cache fetches asks
      · rw [cache, asks, silent, Option.toList_none, List.append_nil]
        exact ⟨_, fetches, stage, fun pending _ => further pending⟩
      · rw [quiet] at asks
        have landed : (t.cache.land now f outcome).landing? f.id = some outcome := by
          rw [landing?_land, if_pos rfl]
        rw [cache, asks, silent, landed, Option.toList_none, List.append_nil]
        exact ⟨_, fetches, stage, nofun⟩
    | answer j outcome =>
      obtain ⟨rfl, rfl, next, rfl⟩ := furthers
      have told : t.told? key j (.about key (.answer j outcome)) = some outcome := by simp [told?, found]
      rw [told]
      rcases stage.answered outcome with ⟨_, _, stage, further⟩ | ⟨deaf, _⟩
      · exact ⟨_, fetches_answer found outcome, stage, fun _ _ => further⟩
      · exact absurd rfl (deaf next)
    | read => exact furthers.elim
    | leave => exact furthers.elim
  | _ => exact furthers.elim

/-- What is known of a fetch is known again behind the next move. -/
theorem step_stage (tracked : Tracked settings t told asked) (sound : t.Sound) (m : Move V J)
    (found : (t.lane k).fetches[i]? = some (f, leg)) :
    ∃ leg', ((t.step m).lane k).fetches[i]? = some (f, leg') ∧
      Stage settings f leg' (told k i ++ (t.told? k i m).toList) (asked k i + t.asks k i m)
        ((t.step m).cache.landing? f.id) := by
  by_cases furthers : m.furthers k i leg
  · obtain ⟨leg', fetches, stage, _⟩ := tracked.step_furthered found furthers
    exact ⟨leg', fetches, stage⟩
  · obtain ⟨fetches, told, asks, landing⟩ := tracked.step_idle sound found furthers
    refine ⟨leg, fetches, ?_⟩
    rw [told, asks, landing]
    simpa using tracked.stage k i f leg found

theorem settings_step (tracked : Tracked settings t told asked) (m : Move V J) :
    (t.step m).cache.settings = settings := by
  rw [← tracked.same]
  cases m with
  | about key errand =>
    cases errand with
    | read now policy job => exact settings_read _ _ _ _ _
    | visit now j =>
      rcases tracked.cache_visiting key j now with same | ⟨g, _, outcome, _, _, same⟩
      · exact congrArg Cache.settings same
      · exact (congrArg Cache.settings same).trans (settings_land _ _ _ _)
    | _ => rfl
  | _ => rfl

/-- The fetches of a key stay in all moves but reads of the key. -/
theorem flights_step (m : Move V J) (k : Key) :
    ((t.step m).lane k).flights = (t.lane k).flights ∨
      ∃ now policy job, m = .about k (.read now policy job) := by
  cases m with
  | about key errand =>
    by_cases here : key = k
    · subst here
      cases errand with
      | read now policy job => exact .inr ⟨now, policy, job, rfl⟩
      | leave reader =>
        rw [lane_step_self]
        exact .inl rfl
      | visit now j =>
        rw [lane_step_self]
        exact .inl (flights_visiting now j _ _).1
      | answer j outcome =>
        rw [lane_step_self]
        exact .inl (map_fst_modify _ j fun _ => rfl)
    · exact .inl (congrArg Lane.flights (lane_step_of_ne t errand here))
  | _ => exact .inl rfl

theorem ordered_step (tracked : Tracked settings t told asked) (sound : t.Sound) (m : Move V J) (k : Key) :
    ((t.step m).lane k).flights.Pairwise (·.id < ·.id) := by
  rcases flights_step m k with same | ⟨now, policy, job, rfl⟩
  · rw [same]
    exact tracked.ordered k
  · have next : ∀ f ∈ (t.cache.read now k policy job).1.departures, f.id = t.cache.nextFlight :=
      fun f mem => (departed_of_read sound.quiet mem).1 ▸ rfl
    have one : (t.cache.read now k policy job).1.departures.Pairwise (·.id < ·.id) := by
      rcases read_cache t.cache now k policy job with same | ⟨_, same⟩ <;> rw [same]
      · exact sound.quiet.symm ▸ List.Pairwise.nil
      · change List.Pairwise _ (t.cache.departures ++ _)
        rw [sound.quiet]
        exact List.pairwise_singleton _ _
    rw [lane_step_self, flights_read, List.pairwise_append]
    refine ⟨tracked.ordered k, one, fun g old f new => ?_⟩
    rw [next f new]
    exact sound.lt_nextFlight old

theorem getElem?_fetches_eq_none_iff (l : Lane V J) (i : Nat) :
    l.fetches[i]? = none ↔ l.flights.length ≤ i := by
  rw [List.getElem?_eq_none_iff, Lane.flights, List.length_map]

/-- Nothing is told to a fetch that has not begun, and it asks for nothing. -/
theorem quiet_of_unstarted (m : Move V J) (before : (t.lane k).fetches[i]? = none) :
    t.told? k i m = none ∧ t.asks k i m = 0 := by
  constructor
  · unfold told?
    split
    · rw [before]
    · rfl
  · unfold asks
    split
    · rename_i key now fetch
      split
      · rename_i mine
        obtain ⟨rfl, rfl⟩ := mine
        rw [lane_visit_of_absent before, Nat.sub_self]
      · rfl
    · rfl

/-- A fetch that was not there before is about to begin. -/
theorem step_begun (tracked : Tracked settings t told asked) (sound : t.Sound)
    (before : (t.lane k).fetches[i]? = none)
    (found : ((t.step m).lane k).fetches[i]? = some (f, leg)) :
    Stage settings f leg [] 0 ((t.step m).cache.landing? f.id) := by
  rcases flights_step m k with same | ⟨now, policy, job, rfl⟩
  · rw [getElem?_fetches_eq_none_iff, ← same, ← getElem?_fetches_eq_none_iff, found] at before
    cases before
  · rw [lane_step_self] at found
    have new : (f, leg) ∈ (t.cache.read now k policy job).1.departures.map fun f =>
        (f, .ready (fly t.cache.settings f (Task.ask fun _ => f.job))) := by
      refine List.mem_of_getElem? (i := i - (t.lane k).fetches.length) ?_
      rw [← found]
      exact (List.getElem?_append_right (List.getElem?_eq_none_iff.mp before)).symm
    obtain ⟨f, departed, same⟩ := List.mem_map.mp new
    cases same
    have next : f.id = t.cache.nextFlight := (departed_of_read sound.quiet departed).1 ▸ rfl
    have pending : (t.step (.about k (.read now policy job))).cache.landing? f.id = none := by
      refine (landing?_read _ _ _ _ _ _).trans ?_
      rw [next]
      exact sound.landing?_nextFlight
    rw [pending, tracked.same]
    exact .begin settings f

/-- What is known of all fetches is known again behind the next move. -/
theorem step (tracked : Tracked settings t told asked) (sound : t.Sound) (m : Move V J) :
    Tracked settings (t.step m) (fun k i => told k i ++ (t.told? k i m).toList)
      (fun k i => asked k i + t.asks k i m) where
  same := tracked.settings_step m
  ordered := tracked.ordered_step sound m
  unstarted := by
    intro k i absent
    have before : (t.lane k).fetches[i]? = none := by
      cases found : (t.lane k).fetches[i]? with
      | none => rfl
      | some p =>
        obtain ⟨leg, still, _⟩ := tracked.step_stage sound m found
        cases absent.symm.trans still
    obtain ⟨none, zero⟩ := quiet_of_unstarted m before
    obtain ⟨told, asked⟩ := tracked.unstarted k i before
    rw [told, asked, none, zero]
    exact ⟨rfl, rfl⟩
  stage := by
    intro k i f leg found
    cases before : (t.lane k).fetches[i]? with
    | none =>
      obtain ⟨none, zero⟩ := quiet_of_unstarted m before
      obtain ⟨told, asked⟩ := tracked.unstarted k i before
      rw [told, asked, none, zero]
      exact tracked.step_begun sound before found
    | some p =>
      obtain ⟨leg', still, stage⟩ := tracked.step_stage sound m before
      cases found.symm.trans still
      exact stage

end Tracked

theorem length_flights_le (t : Traffic V J) (m : Move V J) (k : Key) :
    (t.lane k).flights.length ≤ ((t.step m).lane k).flights.length := by
  rcases Tracked.flights_step m k with same | ⟨now, policy, job, rfl⟩
  · exact (congrArg List.length same).ge
  · rw [lane_step_self, flights_read, List.length_append]
    exact Nat.le_add_right _ _

/-- The jobs that are asked for a key in a move its fetches ask for. -/
theorem calls_length_step (t : Traffic V J) (m : Move V J) (k : Key) {N : Nat}
    (bound : (t.lane k).flights.length ≤ N) :
    ((t.step m).lane k).calls.length =
      (t.lane k).calls.length + ∑ i ∈ Finset.range N, t.asks k i m := by
  cases m with
  | about key errand =>
    by_cases here : key = k
    · subst here
      cases errand with
      | visit now j =>
        have mine : ∀ i, t.asks key i (.about key (.visit now j)) =
            if j = i then t.asks key j (.about key (.visit now j)) else 0 := by
          intro i
          by_cases same : j = i <;> simp [asks, same]
        rw [Finset.sum_congr rfl fun i _ => mine i, Finset.sum_ite_eq]
        cases found : (t.lane key).fetches[j]? with
        | none =>
          rw [(Tracked.quiet_of_unstarted _ found).2, ite_self, lane_visit_of_absent found, Nat.add_zero]
        | some p =>
          have inside : j < N := by
            have inside := (List.getElem?_eq_some_iff.mp found).1
            rw [Lane.flights, List.length_map] at bound
            omega
          have grows : (t.lane key).calls.length ≤
              ((t.step (.about key (.visit now j))).lane key).calls.length := by
            rw [lane_visit, Errand.visiting, found]
            dsimp only
            split <;> simp
          rw [if_pos (Finset.mem_range.mpr inside), asks, if_pos ⟨rfl, rfl⟩]
          omega
      | _ =>
        rw [lane_step_self]
        simp only [asks, Finset.sum_const_zero]
        rfl
    · have quiet : ∀ i, t.asks k i (.about key errand) = 0 := by
        intro i
        cases errand <;> simp [asks, here]
      rw [lane_step_of_ne t errand here, Finset.sum_eq_zero fun i _ => quiet i]
      rfl
  | _ => simp only [asks, Finset.sum_const_zero]; rfl

end Traffic

end DbConsole.Cache

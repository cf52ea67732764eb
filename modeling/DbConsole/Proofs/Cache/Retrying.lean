import DbConsole.Proofs.Cache.Tracking
import Mathlib.Data.Nat.Find
import Mathlib.Order.Bounds.Basic

/-!
How often a fetch asks, and what comes of it. Whatever else goes on, a fetch asks again just behind a
failure to get an answer while repetitions are left; its readers and its entry are given what it is told
last.
-/
set_option autoImplicit false

namespace DbConsole

variable {V J : Type}

/-- The entry has the outcome for its value or for its last error. -/
def Entry.Holds (e : Entry V) : Except Error V → Prop
  | .ok v => e.value = some v
  | .error err => e.lastError = some err

theorem Entry.Holds.of_landed {e : Entry V} {now generation : Nat} {outcome brought : Except Error V}
    (held : (e.landed now generation brought).Holds outcome) : outcome = brought ∨ e.Holds outcome := by
  cases brought with
  | ok v =>
    cases outcome with
    | ok w => exact .inl (congrArg Except.ok (Option.some.inj held).symm)
    | error err => cases held
  | error err =>
    cases outcome with
    | ok w => exact .inr held
    | error err' => exact .inl (congrArg Except.error (Option.some.inj held).symm)

namespace Cache

/-! ### What an entry holds -/

/-- The entry of the key has the outcome for its value or for its last error. -/
def Holds (c : Cache V J) (key : Key) (outcome : Except Error V) : Prop :=
  ∃ e, c.lookup? key = some e ∧ e.Holds outcome

section Holds

variable {c : Cache V J} {key k : Key} {now : Nat} {outcome : Except Error V}

theorem Holds.of_read {policy : FetchPolicy} {job : J}
    (held : (c.read now k policy job).1.Holds key outcome) : c.Holds key outcome := by
  obtain ⟨e, found, held⟩ := held
  by_cases here : k = key
  · subst here
    have touched : (c.entryForRead now k).Holds outcome := by
      obtain ⟨_, same⟩ := c.exists_lookup?_read_self now k policy job
      rw [same] at found
      cases found
      cases outcome <;> exact held
    cases before : c.lookup? k with
    | none =>
      rw [entryForRead, before] at touched
      cases outcome <;> cases touched
    | some old =>
      rw [entryForRead, before] at touched
      exact ⟨old, before, by cases outcome <;> exact touched⟩
  · rw [lookup?_read_of_ne policy here] at found
    exact ⟨e, found, held⟩

theorem Holds.of_land {f : Flight J} {brought : Except Error V}
    (held : (c.land now f brought).Holds key outcome) :
    c.Holds key outcome ∨ f.key = key ∧ outcome = brought := by
  obtain ⟨e, found, held⟩ := held
  rcases lookup?_land_cases found with ⟨before, _⟩ | ⟨here, old, _, before, _, _, rfl⟩
  · exact .inl ⟨e, before, held⟩
  · rcases held.of_landed with new | kept
    · exact .inr ⟨here, new⟩
    · exact .inl ⟨old, before, kept⟩

theorem Holds.of_invalidate {filters : List Filter} (held : (c.invalidate filters).Holds key outcome) :
    c.Holds key outcome := by
  obtain ⟨e, found, held⟩ := held
  rw [lookup?_invalidate] at found
  obtain ⟨old, before, rfl⟩ := Option.map_eq_some_iff.mp found
  refine ⟨old, before, ?_⟩
  split at held
  · cases outcome <;> exact held
  · exact held

end Holds

namespace Traffic.Tracked

variable {settings : CacheSettings} {t : Traffic V J} {told : Key → Nat → List (Except Error V)}
  {asked : Key → Nat → Nat} {k : Key} {outcome : Except Error V}

/-- What a fetch has landed with it keeps. -/
theorem landing?_step (tracked : Tracked settings t told asked) (m : Move V J) {id : Nat}
    (landed : t.cache.landing? id = some outcome) : (t.step m).cache.landing? id = some outcome := by
  cases m with
  | about key errand =>
    cases errand with
    | read now policy job => exact (Cache.landing?_read _ _ _ _ _ _).trans landed
    | visit now j =>
      rcases tracked.cache_visiting key j now with same | ⟨g, _, brought, _, pending, same⟩
      · exact (congrArg (·.landing? id) same).trans landed
      · have apart : g.id ≠ id := fun here => by cases pending.symm.trans (here ▸ landed)
        refine (congrArg (·.landing? id) same).trans ?_
        rw [landing?_land, if_neg apart]
        exact landed
    | _ => exact landed
  | _ => exact landed

/-- What an entry holds behind a move it held before, or a fetch of its key has landed with it. -/
theorem holds_step (tracked : Tracked settings t told asked) (sound : t.Sound) (m : Move V J)
    (held : (t.step m).cache.Holds k outcome) :
    t.cache.Holds k outcome ∨ ∃ (i : Nat) (f : Flight J) (leg : Leg V J),
      (t.lane k).fetches[i]? = some (f, leg) ∧ (t.step m).cache.landing? f.id = some outcome := by
  cases m with
  | about key errand =>
    cases errand with
    | read now policy job => exact .inl (Holds.of_read held)
    | visit now j =>
      rcases tracked.cache_visiting key j now with same | ⟨g, leg, brought, found, _, same⟩
      · exact .inl (same ▸ held)
      · have landed : (t.step (.about key (.visit now j))).cache = t.cache.land now g brought := same
        rw [landed] at held
        rcases held.of_land with old | ⟨here, rfl⟩
        · exact .inl old
        · have mem : g ∈ (t.lane key).flights := List.mem_map_of_mem (List.mem_of_getElem? found)
          obtain rfl : key = k := (sound.keyed key g mem).symm.trans here
          exact .inr ⟨j, g, leg, found, by rw [landed, landing?_land, if_pos rfl]⟩
    | _ => exact .inl held
  | invalidate filters => exact .inl held.of_invalidate
  | clear =>
    obtain ⟨e, found, _⟩ := held
    cases found
  | collect now =>
    obtain ⟨e, found, held⟩ := held
    exact .inl ⟨e, lookup?_collect _ now k e sound.ledger.once found, held⟩

end Traffic.Tracked

/-! ### The end of a script -/

/-- With this outcome of a script a fetch ends: it is the first one that is an answer or has all
repetitions behind it. -/
def IsLast (retries : Nat) (script : Nat → Except Error V) (last : Nat) : Prop :=
  IsLeast {m | ¬ Unreached (script m) ∨ m = retries} last

theorem exists_isLast (retries : Nat) (script : Nat → Except Error V) :
    ∃ last, IsLast retries script last := by
  classical
  have ends : ∃ m, ¬ Unreached (script m) ∨ m = retries := ⟨retries, .inr rfl⟩
  exact ⟨Nat.find ends, Nat.find_spec ends, fun _ mem => Nat.find_min' ends mem⟩

/-- What has been told is what the script begins with. -/
def Follows (script : Nat → Except Error V) (told : List (Except Error V)) : Prop :=
  ∀ j outcome, told[j]? = some outcome → outcome = script j

section Last

variable {settings : CacheSettings} {retries last asked : Nat} {script : Nat → Except Error V}
  {told failures : List (Except Error V)} {outcome : Except Error V} {f : Flight J} {leg : Leg V J}
  {landing : Option (Except Error V)}

theorem Follows.of_append {more : List (Except Error V)} (follows : Follows script (told ++ more)) :
    Follows script told := by
  intro j outcome found
  have inside : j < told.length := (List.getElem?_eq_some_iff.mp found).1
  exact follows j outcome ((List.getElem?_append_left inside).trans found)

namespace IsLast

variable (isLast : IsLast retries script last)

include isLast

theorem le_retries : last ≤ retries :=
  isLast.2 (.inr rfl)

theorem unreached {m : Nat} (before : m < last) : Unreached (script m) := by
  by_contra answered
  exact absurd (isLast.2 (.inl answered)) (Nat.not_le.mpr before)

/-- There are no more failures than there are before the last outcome. -/
theorem length_le (failed : ∀ x ∈ told, Unreached x) (within : told.length ≤ retries)
    (follows : Follows script told) : told.length ≤ last := by
  by_contra longer
  have inside : last < told.length := Nat.lt_of_not_le longer
  have found : told[last]? = some told[last] := List.getElem?_eq_getElem inside
  have unreached : Unreached (script last) :=
    follows last _ found ▸ failed _ (List.mem_of_getElem? found)
  rcases isLast.1 with answered | all
  · exact answered unreached
  · omega

theorem of_ends (ends : Ends retries failures outcome) (follows : Follows script (failures ++ [outcome])) :
    failures.length = last ∧ outcome = script last := by
  have here : outcome = script failures.length := follows failures.length outcome (by simp)
  have atMost := isLast.length_le ends.failed ends.within follows.of_append
  have least := isLast.2 (ends.final.imp (fun answered => here ▸ answered) id)
  have same : failures.length = last := Nat.le_antisymm atMost least
  exact ⟨same, same ▸ here⟩

end IsLast

/-- A fetch asks once for each outcome of its script up to the last, which it lands with. -/
theorem Stage.of_follows (stage : Stage settings f leg told asked landing) (follows : Follows script told)
    (isLast : IsLast settings.retries script last) :
    asked ≤ last + 1 ∧ ∀ outcome, landing = some outcome → outcome = script last ∧ asked = last + 1 := by
  cases stage with
  | due failed count | asleep _ failed count | repelled failed count =>
    have atMost := isLast.length_le failed (by omega) follows
    exact ⟨by omega, nofun⟩
  | waiting failed count =>
    have atMost := isLast.length_le failed (by omega) follows
    exact ⟨by omega, nofun⟩
  | ended ends =>
    obtain ⟨same, _⟩ := isLast.of_ends ends follows
    exact ⟨by omega, nofun⟩
  | landed ends =>
    obtain ⟨same, here⟩ := isLast.of_ends ends follows
    refine ⟨by omega, fun outcome brought => ?_⟩
    cases brought
    exact ⟨here, by omega⟩

end Last

/-! ### Traffic without end -/

/-- A cache with all that goes on around it, move after move. -/
structure Flow (V J : Type) where
  settings : CacheSettings
  move : Nat → Move V J

namespace Flow

def traffic (w : Flow V J) : Nat → Traffic V J
  | 0 => .empty w.settings
  | n + 1 => (w.traffic n).step (w.move n)

/-- What the fetches of the keys have been told. -/
def told (w : Flow V J) : Nat → Key → Nat → List (Except Error V)
  | 0 => fun _ _ => []
  | n + 1 => fun k i => w.told n k i ++ ((w.traffic n).told? k i (w.move n)).toList

/-- How often the fetches of the keys have asked for their jobs. -/
def asked (w : Flow V J) : Nat → Key → Nat → Nat
  | 0 => fun _ _ => 0
  | n + 1 => fun k i => w.asked n k i + (w.traffic n).asks k i (w.move n)

variable (w : Flow V J)

theorem told_succ (n : Nat) (k : Key) (i : Nat) :
    w.told (n + 1) k i = w.told n k i ++ ((w.traffic n).told? k i (w.move n)).toList := rfl

theorem asked_succ (n : Nat) (k : Key) (i : Nat) :
    w.asked (n + 1) k i = w.asked n k i + (w.traffic n).asks k i (w.move n) := rfl

/-- A fetch of a key and how far it has got. -/
def fetch? (n : Nat) (k : Key) (i : Nat) : Option (Flight J × Leg V J) :=
  ((w.traffic n).lane k).fetches[i]?

/-- What a fetch has landed with. -/
def landing? (n : Nat) (f : Flight J) : Option (Except Error V) :=
  (w.traffic n).cache.landing? f.id

/-- The fetch is told what its script says. -/
def Scripted (k : Key) (i : Nat) (script : Nat → Except Error V) : Prop :=
  ∀ n, Follows script (w.told n k i)

/-- A fetch that has not landed is not forgotten: sooner or later something brings it on. -/
def Attended (k : Key) (i : Nat) : Prop :=
  ∀ n f leg, w.fetch? n k i = some (f, leg) → w.landing? n f = none →
    ∃ m, n ≤ m ∧ (w.move m).furthers k i leg

theorem sound (n : Nat) : (w.traffic n).Sound := by
  induction n with
  | zero => exact .empty w.settings
  | succ n ih => exact ih.step (w.move n)

theorem tracked (n : Nat) : (w.traffic n).Tracked w.settings (w.told n) (w.asked n) := by
  induction n with
  | zero => exact .empty w.settings
  | succ n ih => exact ih.step (w.sound n) (w.move n)

variable {w} {k : Key} {i n : Nat} {f : Flight J} {leg : Leg V J}

theorem fetch?_mono {m : Nat} (found : w.fetch? n k i = some (f, leg)) (later : n ≤ m) :
    ∃ leg', w.fetch? m k i = some (f, leg') := by
  induction m, later using Nat.le_induction with
  | base => exact ⟨leg, found⟩
  | succ m _ ih =>
    obtain ⟨leg', found⟩ := ih
    obtain ⟨leg'', still, _⟩ := (w.tracked m).step_stage (w.sound m) (w.move m) found
    exact ⟨leg'', still⟩

theorem landing?_mono {m : Nat} {outcome : Except Error V} (landed : w.landing? n f = some outcome)
    (later : n ≤ m) : w.landing? m f = some outcome := by
  induction m, later using Nat.le_induction with
  | base => exact landed
  | succ m _ ih => exact (w.tracked m).landing?_step (w.move m) ih

/-- The jobs that have been asked for a key its fetches have asked for. -/
theorem calls_length (n : Nat) (k : Key) {N : Nat} (bound : ((w.traffic n).lane k).flights.length ≤ N) :
    ((w.traffic n).lane k).calls.length = ∑ i ∈ Finset.range N, w.asked n k i := by
  induction n with
  | zero => exact (Finset.sum_const_zero (s := Finset.range N)).symm
  | succ n ih =>
    have fewer : ((w.traffic n).lane k).flights.length ≤ N :=
      Nat.le_trans (Traffic.length_flights_le (w.traffic n) (w.move n) k) bound
    have step := Traffic.calls_length_step (w.traffic n) (w.move n) k fewer
    rw [ih fewer] at step
    simp only [asked_succ, Finset.sum_add_distrib]
    exact step

/-- A fetch that has not landed comes nearer to it, if it is brought on at some time. -/
theorem exists_progress (d : Nat) (found : w.fetch? n k i = some (f, leg))
    (pending : w.landing? n f = none) (furthers : (w.move (n + d)).furthers k i leg) :
    ∃ m leg', n < m ∧ w.fetch? m k i = some (f, leg') ∧ (w.landing? m f = none →
      leg.progress (w.told n k i).length (w.asked n k i) <
        leg'.progress (w.told m k i).length (w.asked m k i)) := by
  induction d generalizing n with
  | zero =>
    obtain ⟨leg', fetches, _, further⟩ := (w.tracked n).step_furthered found furthers
    exact ⟨n + 1, leg', Nat.lt_succ_self n, fetches, further pending⟩
  | succ d ih =>
    by_cases now : (w.move n).furthers k i leg
    · obtain ⟨leg', fetches, _, further⟩ := (w.tracked n).step_furthered found now
      exact ⟨n + 1, leg', Nat.lt_succ_self n, fetches, further pending⟩
    · obtain ⟨fetches, silent, asks, landing⟩ := (w.tracked n).step_idle (w.sound n) found now
      have told : w.told (n + 1) k i = w.told n k i := by
        rw [told_succ, silent, Option.toList_none, List.append_nil]
      have asked : w.asked (n + 1) k i = w.asked n k i := by
        rw [asked_succ, asks, Nat.add_zero]
      obtain ⟨m, leg', later, rest⟩ := ih (n := n + 1) fetches (landing.trans pending)
        (by rwa [Nat.add_right_comm])
      rw [told, asked] at rest
      exact ⟨m, leg', by omega, rest⟩

/-- A fetch that is attended to lands. -/
theorem lands (attended : w.Attended k i) (found : w.fetch? n k i = some (f, leg)) :
    ∃ m, n ≤ m ∧ (w.landing? m f).isSome = true := by
  -- The fetch is this far from as far as it can get without having landed.
  generalize left : 4 * (w.settings.retries + 1) - leg.progress (w.told n k i).length (w.asked n k i) = d
  induction d using Nat.strong_induction_on generalizing n leg with
  | _ d ih =>
    cases pending : w.landing? n f with
    | some outcome => exact ⟨n, Nat.le_refl n, by rw [pending]; rfl⟩
    | none =>
      obtain ⟨m, behind, furthers⟩ := attended n f leg found pending
      obtain ⟨m, leg', later, found', further⟩ :=
        exists_progress (m - n) found pending (by rwa [Nat.add_sub_cancel' behind])
      cases landing : w.landing? m f with
      | some outcome => exact ⟨m, later.le, by rw [landing]; rfl⟩
      | none =>
        have bound := ((w.tracked m).stage k i f leg' found').progress_le
        have nearer := further landing
        obtain ⟨last, after, landed⟩ := ih _ (by omega) found' rfl
        exact ⟨last, by omega, landed⟩

/-- Moves that are not about a fetch make no difference to what it has been told. -/
theorem told_of_apart {m : Nat} (later : n ≤ m) (apart : ∀ p, n ≤ p → (w.move p).tends k i = false) :
    w.told m k i = w.told n k i := by
  induction m, later using Nat.le_induction with
  | base => rfl
  | succ m behind ih =>
    rw [told_succ, Traffic.told?_of_apart (apart m behind), Option.toList_none, List.append_nil, ih]

/-- What has been told follows the script if what will have been told does. -/
theorem follows_of_le {m : Nat} {script : Nat → Except Error V} (later : n ≤ m)
    (follows : Follows script (w.told m k i)) : Follows script (w.told n k i) := by
  induction m, later using Nat.le_induction with
  | base => exact follows
  | succ m _ ih =>
    rw [told_succ] at follows
    exact ih follows.of_append

/-- What an entry holds has been brought by a fetch of its key. -/
theorem brought_of_holds (n : Nat) (k : Key) (outcome : Except Error V)
    (held : (w.traffic n).cache.Holds k outcome) :
    ∃ i f leg, w.fetch? n k i = some (f, leg) ∧ w.landing? n f = some outcome := by
  induction n generalizing k with
  | zero =>
    obtain ⟨e, found, _⟩ := held
    cases found
  | succ n ih =>
    have tracked := w.tracked n
    have brought : ∃ i f leg, w.fetch? n k i = some (f, leg) ∧ w.landing? (n + 1) f = some outcome := by
      rcases tracked.holds_step (w.sound n) (w.move n) held with old | new
      · obtain ⟨i, f, leg, found, landed⟩ := ih k old
        exact ⟨i, f, leg, found, tracked.landing?_step (w.move n) landed⟩
      · exact new
    obtain ⟨i, f, leg, found, landed⟩ := brought
    obtain ⟨leg', still, _⟩ := tracked.step_stage (w.sound n) (w.move n) found
    exact ⟨i, f, leg', still, landed⟩

/-- What becomes of a fetch that follows a script with that last outcome. -/
structure TriesUntil (w : Flow V J) (k : Key) (i : Nat) (script : Nat → Except Error V) (last : Nat) :
    Prop where
  isLast : IsLast w.settings.retries script last
  /-- It asks again just behind a failure to get an answer. -/
  again : ∀ n m, m + 1 < w.asked n k i → Unreached (script m)
  atMost : ∀ n, w.asked n k i ≤ last + 1
  /-- When it has landed it has asked for all outcomes up to the last, and brings the last. -/
  landed : ∀ n f leg outcome, w.fetch? n k i = some (f, leg) → w.landing? n f = some outcome →
    outcome = script last ∧ w.asked n k i = last + 1
  /-- It brings no failure to get an answer while repetitions are left. -/
  patient : ∀ n f leg cause, w.fetch? n k i = some (f, leg) →
    w.landing? n f = some (.error (.transport cause)) → w.asked n k i = w.settings.retries + 1
  /-- Nothing but the last outcome is recorded for it. -/
  recorded : ∀ n now f leg, w.fetch? n k i = some (f, leg) → w.move n = .about k (.visit now i) →
    (w.traffic (n + 1)).cache = (w.traffic n).cache ∨
      (w.traffic (n + 1)).cache = (w.traffic n).cache.land now f (script last)
  /-- Who waits for it gets the last outcome, when it has landed. -/
  read : ∀ {α : Type} (cast : V → Option α) (n : Nat) f leg reader, w.fetch? n k i = some (f, leg) →
    ((w.traffic n).lane k).readers[reader]? = some (some (.awaiting f.id)) →
    ((w.traffic n).lane k).result? (w.traffic n).cache k cast reader =
      (w.landing? n f).map fun _ => (script last).bind (ofKind k cast)
  lands : w.Attended k i → ∀ n f leg, w.fetch? n k i = some (f, leg) →
    ∃ m, n ≤ m ∧ w.landing? m f = some (script last)

theorem triesUntil {script : Nat → Except Error V} {last : Nat} (scripted : w.Scripted k i script)
    (isLast : IsLast w.settings.retries script last) : w.TriesUntil k i script last := by
  have stage := fun n f leg found => (w.tracked n).stage k i f leg found
  have landed : ∀ n f leg outcome, w.fetch? n k i = some (f, leg) → w.landing? n f = some outcome →
      outcome = script last ∧ w.asked n k i = last + 1 := fun n f leg outcome found =>
    ((stage n f leg found).of_follows (scripted n) isLast).2 outcome
  have atMost : ∀ n, w.asked n k i ≤ last + 1 := by
    intro n
    cases found : w.fetch? n k i with
    | none =>
      rw [((w.tracked n).unstarted k i found).2]
      omega
    | some p => exact ((stage n p.1 p.2 found).of_follows (scripted n) isLast).1
  refine ⟨isLast, ?again, atMost, landed, ?patient, ?recorded, ?read, ?lands⟩
  case again =>
    intro n m behind
    have bound := atMost n
    exact isLast.unreached (by omega)
  case patient =>
    intro n f leg cause found surfaced
    obtain ⟨here, asked⟩ := landed n f leg _ found surfaced
    rcases isLast.1 with answered | all
    · exact absurd ⟨cause, here.symm⟩ answered
    · rw [asked, all]
  case recorded =>
    intro n now f leg found happens
    have step : w.traffic (n + 1) = (w.traffic n).step (.about k (.visit now i)) := by
      rw [← happens]
      rfl
    have visited : (w.traffic (n + 1)).cache =
        (Errand.visiting now i (w.traffic n).cache ((w.traffic n).lane k)).1 := congrArg _ step
    rcases (w.tracked n).cache_visiting k i now with same | ⟨g, _, outcome, found', _, same⟩
    · exact .inl (visited.trans same)
    · cases found.symm.trans found'
      obtain ⟨leg', still, _⟩ := (w.tracked n).step_stage (w.sound n) (w.move n) found
      have brings : w.landing? (n + 1) f = some outcome := by
        rw [landing?, visited, same, landing?_land, if_pos rfl]
      exact .inr ((landed (n + 1) f leg' outcome still brings).1 ▸ visited.trans same)
  case read =>
    intro α cast n f leg reader found waits
    rw [Lane.result?, waits]
    change (w.landing? n f).map (fun brought => brought.bind (ofKind k cast)) = _
    cases brought : w.landing? n f with
    | none => rfl
    | some outcome => rw [(landed n f leg outcome found brought).1, Option.map_some, Option.map_some]
  case lands =>
    intro attended n f leg found
    obtain ⟨m, later, brought⟩ := Flow.lands attended found
    obtain ⟨outcome, brought⟩ := Option.isSome_iff_exists.mp brought
    obtain ⟨leg', still⟩ := fetch?_mono found later
    exact ⟨m, later, brought.trans (congrArg some (landed m f leg' outcome still brought).1)⟩

/-- A fetch asks again just behind failures to get an answer and while it has repetitions left: it asks
once for each outcome up to the first that is no such failure or has no repetition behind it, and brings
that one to all who wait for it. Nobody else asks for jobs of the key, and its entry holds nothing else. -/
theorem asks_until_last (w : Flow V J) (k : Key) (script : Nat → Nat → Except Error V)
    (scripted : ∀ i, w.Scripted k i (script i)) :
    (∀ i, ∃ last, w.TriesUntil k i (script i) last) ∧
    (∀ n, ((w.traffic n).lane k).calls.length =
      ∑ i ∈ Finset.range ((w.traffic n).lane k).flights.length, w.asked n k i) ∧
    ∀ n outcome, (w.traffic n).cache.Holds k outcome → ∃ i f leg last,
      w.fetch? n k i = some (f, leg) ∧ w.landing? n f = some outcome ∧
      IsLast w.settings.retries (script i) last ∧ outcome = script i last := by
  refine ⟨?_, fun n => calls_length n k (Nat.le_refl _), ?_⟩
  · intro i
    obtain ⟨last, isLast⟩ := exists_isLast w.settings.retries (script i)
    exact ⟨last, triesUntil (scripted i) isLast⟩
  · intro n outcome held
    obtain ⟨i, f, leg, found, brought⟩ := brought_of_holds n k outcome held
    obtain ⟨last, isLast⟩ := exists_isLast w.settings.retries (script i)
    have tries := triesUntil (scripted i) isLast
    exact ⟨i, f, leg, last, found, brought, isLast, (tries.landed n f leg outcome found brought).1⟩

/-- A fetch of the list that gets no answer at first and is answered when it asks again. -/
def unreachedOnce : Flow Nat Unit where
  settings := ⟨1000, 1000, 1, 5⟩
  move
    | 0 => .about .tables (.read 0 .cached ())
    | 1 => .about .tables (.visit 0 0)
    | 2 => .about .tables (.answer 0 (.error (.transport (.other ""))))
    | 3 => .about .tables (.visit 0 0)
    | 4 => .about .tables (.visit 3 0)
    | 5 => .about .tables (.visit 5 0)
    | 6 => .about .tables (.answer 0 (.ok 7))
    | 7 => .about .tables (.visit 5 0)
    | _ => .invalidate []

theorem unreachedOnce_scripted (i : Nat) :
    unreachedOnce.Scripted .tables i fun j => if j = 0 then .error (.transport (.other "")) else .ok 7 := by
  intro n
  have apart : ∀ p, 8 ≤ p → (unreachedOnce.move p).tends .tables i = false := by
    intro p behind
    obtain ⟨q, rfl⟩ := Nat.exists_eq_add_of_le' behind
    rfl
  have follows : Follows (fun j => if j = 0 then .error (.transport (.other "")) else .ok 7)
      (unreachedOnce.told 8 .tables i) := by
    cases i with
    | zero =>
      have told : unreachedOnce.told 8 .tables 0 = [.error (.transport (.other "")), .ok 7] := rfl
      rw [told]
      rintro (_ | _ | j) outcome found <;> cases found <;> rfl
    | succ i =>
      have told : unreachedOnce.told 8 .tables (i + 1) = [] := rfl
      rw [told]
      nofun
  rcases Nat.le_total n 8 with early | late
  · exact follows_of_le early follows
  · rwa [told_of_apart late apart]

theorem unreachedOnce_attended : unreachedOnce.Attended .tables 0 := by
  intro n f leg found pending
  rcases Nat.lt_or_ge n 8 with early | late
  · -- Each leg is brought on by the move that comes next, but that the fetch sleeps through one.
    match n, early with
    | 0, _ => cases found
    | 1, _ => cases found; exact ⟨1, by decide, rfl, rfl, rfl⟩
    | 2, _ => cases found; exact ⟨2, by decide, rfl, rfl, _, rfl⟩
    | 3, _ => cases found; exact ⟨3, by decide, rfl, rfl, rfl⟩
    | 4, _ => cases found; exact ⟨5, by decide, rfl, rfl, rfl⟩
    | 5, _ => cases found; exact ⟨5, by decide, rfl, rfl, rfl⟩
    | 6, _ => cases found; exact ⟨6, by decide, rfl, rfl, _, rfl⟩
    | 7, _ => cases found; exact ⟨7, by decide, rfl, rfl, rfl⟩
  · have landed : unreachedOnce.fetch? 8 .tables 0 = some (⟨1, .tables, 0, ()⟩, .ready (.done ())) := rfl
    obtain ⟨leg', still⟩ := fetch?_mono landed late
    cases found.symm.trans still
    have brought : unreachedOnce.landing? 8 ⟨1, .tables, 0, ()⟩ = some (.ok 7) := rfl
    cases pending.symm.trans (landing?_mono brought late)

/-- The fetch asks twice, and both its reader and the entry have the second answer. -/
theorem unreachedOnce_asks_twice :
    (∀ i, unreachedOnce.Scripted .tables i fun j =>
      if j = 0 then .error (.transport (.other "")) else .ok 7) ∧
    unreachedOnce.Attended .tables 0 ∧
    unreachedOnce.asked 8 .tables 0 = 2 ∧
    ((unreachedOnce.traffic 8).lane .tables).result? (unreachedOnce.traffic 8).cache .tables some 0 =
      some (.ok 7) ∧
    ∀ n outcome, (unreachedOnce.traffic n).cache.Holds .tables outcome → outcome = .ok 7 := by
  have scripted := unreachedOnce_scripted
  obtain ⟨tries, -, holds⟩ := asks_until_last unreachedOnce .tables _ scripted
  have isLast : ∀ last, IsLast 1 (fun j => if j = 0 then .error (.transport (.other "")) else
      (.ok 7 : Except Error Nat)) last → last = 1 := by
    intro last isLast
    have atMost := isLast.le_retries
    rcases isLast.1 with answered | all
    · by_contra other
      obtain rfl : last = 0 := by omega
      exact answered ⟨_, rfl⟩
    · exact all
  obtain ⟨last, tries⟩ := tries 0
  obtain rfl := isLast last tries.isLast
  have found : unreachedOnce.fetch? 8 .tables 0 = some (⟨1, .tables, 0, ()⟩, .ready (.done ())) := rfl
  refine ⟨scripted, unreachedOnce_attended, (tries.landed 8 _ _ (.ok 7) found rfl).2, ?_, ?_⟩
  · exact tries.read some 8 _ _ 0 found rfl
  · intro n outcome held
    obtain ⟨i, f, leg, last, _, _, last', same⟩ := holds n outcome held
    obtain rfl := isLast last last'
    exact same

end Flow

end Cache

end DbConsole

import DbConsole.Proofs.Cache.Waiting

/-!
A key is fetched once at a time: a second fetch starts only when the first one has landed or the key
has been forgotten in between. A fetch that is tried again is on its way all the same. Readers who
wait for one fetch all get what it has brought.
-/
set_option autoImplicit false

namespace DbConsole.Cache.Run

variable {V J : Type} {r : Run V J} {start later n : Nat} {f g : Flight J}

/-! ### Two starts -/

/-- Between two starts of fetches of one key the first fetch lands or the key is forgotten. -/
theorem Starts.landed_or_forgotten (first : r.Starts start f) (second : r.Starts later g)
    (sameKey : g.key = f.key) (lt : start < later) :
    (∃ finish now outcome, start < finish ∧ finish < later ∧
      r.event finish = .land now f outcome) ∨
    ∃ forgetting, start < forgetting ∧ forgetting < later ∧
      (r.event forgetting).forgets f.key = true := by
  by_contra neither
  have pending : ∀ m, start < m → m < later → ∀ now outcome, r.event m ≠ .land now f outcome :=
    fun m behind before now outcome lands =>
      neither (Or.inl ⟨m, now, outcome, behind, before, lands⟩)
  have remembered : ∀ m, start < m → m < later → (r.event m).forgets f.key = false :=
    fun m behind before => Bool.eq_false_of_not_eq_true fun forgotten =>
      neither (Or.inr ⟨m, behind, before, forgotten⟩)
  clear neither
  -- The second start is taken to be the earliest one, so that none comes in between.
  induction later using Nat.strong_induction_on generalizing g with
  | h later ih =>
    have latest : r.Latest start later f := by
      intro m behind before
      refine ⟨fun cleared => ?_, fun h starts same => ?_⟩
      · have forgotten := remembered m behind before
        rw [cleared] at forgotten
        cases forgotten
      · exact ih m before starts same behind
          (fun k behind' before' => pending k behind' (before'.trans before))
          (fun k behind' before' => remembered k behind' (before'.trans before))
    obtain ⟨e, found, held, _, counts⟩ := exists_waiting first lt pending latest
    have current : e.generation = f.generation := counts.mpr remembered
    have joinable : (r.cache later).underway? f.key = some f.id := by
      rw [underway?, found]
      exact (Entry.current?_eq_some e f.id).mpr ⟨f.mark, held, current.symm, rfl⟩
    obtain ⟨_, _, _, idle, _⟩ := second.exists_read
    rw [sameKey, joinable] at idle
    cases idle

/-! ### Fetches that are still running -/

/-- The fetch has been started and has not landed. -/
def Running (r : Run V J) (n : Nat) (f : Flight J) : Prop :=
  f ∈ (r.cache n).departures ∧ (r.cache n).landing? f.id = none

/-- The entry of its key has the generation that the fetch was started for. -/
def OfGeneration (r : Run V J) (n : Nat) (f : Flight J) : Prop :=
  ((r.cache n).lookup? f.key).map Entry.generation = some f.generation

/-- The entry that the fetch was started for has been there ever since. -/
def Remains (r : Run V J) (n : Nat) (f : Flight J) : Prop :=
  ∃ start, r.Starts start f ∧ ∀ m, start < m → m ≤ n → (r.cache m).lookup? f.key ≠ none

/-- The generation of an entry that is not removed never gets less; an invalidation raises it. -/
theorem generation_succ (key : Key) (e e' : Entry V) (found : (r.cache n).lookup? key = some e)
    (found' : (r.cache (n + 1)).lookup? key = some e') :
    e.generation ≤ e'.generation ∧
      ((r.event n).forgets key = true → e.generation < e'.generation) := by
  cases becomes key e e' found found' with
  | kept quiet same =>
    rw [same, quiet]
    exact ⟨Nat.le_refl _, nofun⟩
  | landed now h outcome happens _ _ same =>
    have unchanged : e'.generation = e.generation := by
      rw [same]
      cases outcome <;> rfl
    rw [unchanged, happens]
    exact ⟨Nat.le_refl _, nofun⟩
  | invalidated _ same =>
    rw [same]
    exact ⟨Nat.le_succ _, fun _ => Nat.lt_succ_self _⟩

theorem generation_le (key : Key) {m : Nat} (le : m ≤ n) (e e' : Entry V)
    (found : (r.cache m).lookup? key = some e) (found' : (r.cache n).lookup? key = some e')
    (remains : ∀ k, m ≤ k → k ≤ n → (r.cache k).lookup? key ≠ none) :
    e.generation ≤ e'.generation := by
  induction n, le using Nat.le_induction generalizing e' with
  | base =>
    cases found.symm.trans found'
    exact Nat.le_refl _
  | succ n le ih =>
    obtain ⟨before, between⟩ := Option.ne_none_iff_exists'.mp (remains n le (Nat.le_succ n))
    have grown := (generation_succ key before e' between found').1
    have early := ih before between fun k behind le' => remains k behind (Nat.le_succ_of_le le')
    exact Nat.le_trans early grown

/-- As long as a fetch has the generation of the entry that it was started for, the key has not been
forgotten since its start. -/
theorem remembered_of_ofGeneration (starts : r.Starts start f)
    (remains : ∀ m, start < m → m ≤ n → (r.cache m).lookup? f.key ≠ none)
    (current : r.OfGeneration n f) {m : Nat} (behind : start < m) (before : m < n) :
    (r.event m).forgets f.key = false := by
  apply Bool.eq_false_of_not_eq_true
  intro forgotten
  obtain ⟨now, _, _, _, _, generation, departs⟩ := starts.exists_read
  have first := lookup?_depart_self (r.cache start) f.key
    ((r.cache start).entryForRead now f.key) f.job
  rw [← departs] at first
  obtain ⟨old, there⟩ := Option.ne_none_iff_exists'.mp (remains m behind before.le)
  obtain ⟨new, there'⟩ := Option.ne_none_iff_exists'.mp
    (remains (m + 1) (Nat.lt_succ_of_lt behind) before)
  obtain ⟨last, found, isCurrent⟩ := Option.map_eq_some_iff.mp current
  have toOld := generation_le f.key behind _ old first there
    fun k after le => remains k after (Nat.le_trans le before.le)
  have step : old.generation < new.generation :=
    (generation_succ f.key old new there there').2 forgotten
  have toLast : new.generation ≤ last.generation :=
    generation_le f.key before new last there' found
      fun k after le => remains k (Nat.lt_of_lt_of_le behind (Nat.le_of_succ_le after)) le
  rw [generation] at isCurrent
  dsimp only at toOld
  omega

/-- A fetch that runs for the entry as it is can be joined. -/
theorem Running.joinable (running : r.Running n f) (current : r.OfGeneration n f)
    (remains : r.Remains n f) : (r.cache n).underway? f.key = some f.id := by
  obtain ⟨start, starts, stays⟩ := remains
  have later : start < n := starts.lt_of_mem running.1
  have remembered : ∀ m, start < m → m < n → (r.event m).forgets f.key = false :=
    fun m behind before => remembered_of_ofGeneration starts stays current behind before
  have latest : r.Latest start n f := by
    intro m behind before
    refine ⟨fun cleared => ?_, fun g second sameKey => ?_⟩
    · have forgotten := remembered m behind before
      rw [cleared] at forgotten
      cases forgotten
    · rcases starts.landed_or_forgotten second sameKey behind with
        ⟨finish, now, outcome, _, early, lands⟩ | ⟨forgetting, after, early, forgotten⟩
      · exact r.pending_of_landing? running.2 (early.trans before) now outcome lands
      · rw [remembered forgetting after (early.trans before)] at forgotten
        cases forgotten
  obtain ⟨e, found, held, _, counts⟩ := exists_waiting starts later
    (fun m _ before => r.pending_of_landing? running.2 before) latest
  rw [underway?, found]
  exact (Entry.current?_eq_some e f.id).mpr ⟨f.mark, held, (counts.mpr remembered).symm, rfl⟩

/-! ### Readers -/

/-- The reader who began there waits for the fetch. -/
def Joins (r : Run V J) (reader : Nat) (f : Flight J) : Prop :=
  ∃ now policy job, r.event reader = .read now f.key policy job ∧
    ((r.cache reader).read now f.key policy job).2 = .awaiting f.id

theorem Joins.result?_eq {α : Type} {reader finish now : Nat} {outcome : Except Error V}
    (joins : r.Joins reader f) (cast : V → Option α)
    (lands : r.event finish = .land now f outcome) (later : finish < n) :
    r.result? cast reader n = some (outcome.bind (ofKind f.key cast)) := by
  obtain ⟨begun, policy, job, happens, waits⟩ := joins
  have landed := r.landing?_of_land finish n now f outcome lands later
  rw [result?, happens]
  simp only [waits, outcome?]
  change ((r.cache n).landing? f.id).map _ = _
  rw [landed, Option.map_some]

/-- Between two starts for one key the first fetch lands or the key is forgotten. Of the fetches
that run for an entry as it is, and were started for it, there is one at most; and whoever has
joined a fetch gets what it has brought. -/
theorem single_flight (r : Run V J) :
    (∀ start later f g, r.Starts start f → r.Starts later g → g.key = f.key → start < later →
      (∃ finish now outcome, start < finish ∧ finish < later ∧
        r.event finish = .land now f outcome) ∨
      ∃ forgetting, start < forgetting ∧ forgetting < later ∧
        (r.event forgetting).forgets f.key = true) ∧
    (∀ n f g, g.key = f.key → r.Running n f → r.Running n g → r.OfGeneration n f →
      r.OfGeneration n g → r.Remains n f → r.Remains n g → f = g) ∧
    ∀ f finish now outcome, r.event finish = .land now f outcome →
      ∀ reader, r.Joins reader f → ∀ n > finish, ∀ (α : Type) (cast : V → Option α),
        r.result? cast reader n = some (outcome.bind (ofKind f.key cast)) := by
  refine ⟨?_, ?_, ?_⟩
  · intro start later f g first second sameKey lt
    exact first.landed_or_forgotten second sameKey lt
  · intro n f g sameKey running running' current current' remains remains'
    have joined := running.joinable current remains
    have joined' := running'.joinable current' remains'
    rw [sameKey, joined] at joined'
    exact (r.ledger n).unique f running.1 g running'.1 (Option.some.inj joined')
  · intro f finish now outcome lands reader joins n later α cast
    exact joins.result?_eq cast lands later

/-- Two readers of the tables share a fetch; it is on its way still when the tables are invalidated
and fetched anew. -/
def shared : Run String Unit where
  settings := ⟨300000, 1800000, 1, 1000⟩
  event
    | 0 => .read 0 .tables .cached ()
    | 1 => .read 0 .tables .fresh ()
    | 2 => .invalidate [.exact .tables]
    | 3 => .read 0 .tables .cached ()
    | 4 => .land 0 ⟨1, .tables, 0, ()⟩ (.ok "old")
    | _ => .leave 0
  lands := by
    intro n now flight outcome happens
    match n with
    | 4 => cases happens; exact ⟨List.mem_cons_self, rfl⟩
    | 0 | 1 | 2 | 3 | _ + 5 => cases happens

/-- Both readers get what their fetch brings, and the tables are forgotten before the second one. -/
theorem shared_by_readers :
    (∃ forgetting, 0 < forgetting ∧ forgetting < 3 ∧
        (shared.event forgetting).forgets .tables = true) ∧
      shared.result? some 0 5 = some (.ok "old") ∧ shared.result? some 1 5 = some (.ok "old") := by
  obtain ⟨apart, _, same⟩ := single_flight shared
  have joined := same ⟨1, .tables, 0, ()⟩ 4 0 (.ok "old") rfl
  refine ⟨?_, joined 0 ⟨0, .cached, (), rfl, rfl⟩ 5 (by decide) String some,
    joined 1 ⟨0, .fresh, (), rfl, rfl⟩ 5 (by decide) String some⟩
  have between := apart 0 3 ⟨1, .tables, 0, ()⟩ ⟨2, .tables, 1, ()⟩ rfl rfl rfl (by decide)
  refine between.resolve_left ?_
  rintro ⟨finish, now, outcome, behind, before, lands⟩
  obtain rfl | rfl : finish = 1 ∨ finish = 2 := by omega
  all_goals cases lands

/-- A fetch of the tables goes on while the cache is cleared, and another one is started. -/
def clearedBetween : Run String Unit where
  settings := ⟨300000, 1800000, 1, 1000⟩
  event
    | 0 => .read 0 .tables .cached ()
    | 1 => .clear
    | 2 => .read 0 .tables .cached ()
    | _ => .leave 0
  lands := by
    intro n now flight outcome happens
    match n with
    | 0 | 1 | 2 | _ + 3 => cases happens

/-- A fetch of the tables goes on while they are invalidated, fetched anew, evicted and fetched a
third time. -/
def evictedBetween : Run String Unit where
  settings := ⟨300000, 1800000, 1, 1000⟩
  event
    | 0 => .read 0 .tables .cached ()
    | 1 => .invalidate [.exact .tables]
    | 2 => .read 0 .tables .cached ()
    | 3 => .land 0 ⟨2, .tables, 1, ()⟩ (.ok "second")
    | 4 => .collect 1800000
    | 5 => .read 1800000 .tables .cached ()
    | _ => .leave 0
  lands := by
    intro n now flight outcome happens
    match n with
    | 3 => cases happens; exact ⟨List.mem_cons_of_mem _ List.mem_cons_self, rfl⟩
    | 0 | 1 | 2 | 4 | 5 | _ + 6 => cases happens

/-- The entry that is made anew starts at the same generation, so a fetch for the one before it has
the generation of the entry while another fetch runs for that. -/
theorem generation_of_two_running :
    (∃ f g, f ≠ g ∧ g.key = f.key ∧ clearedBetween.Running 3 f ∧ clearedBetween.Running 3 g ∧
      clearedBetween.OfGeneration 3 f ∧ clearedBetween.OfGeneration 3 g) ∧
    ∃ f g, f ≠ g ∧ g.key = f.key ∧ evictedBetween.Running 6 f ∧ evictedBetween.Running 6 g ∧
      evictedBetween.OfGeneration 6 f ∧ evictedBetween.OfGeneration 6 g := by
  constructor
  · refine ⟨⟨1, .tables, 0, ()⟩, ⟨2, .tables, 0, ()⟩, nofun, rfl, ⟨?_, rfl⟩, ⟨?_, rfl⟩, rfl, rfl⟩
    · exact List.mem_cons_self
    · exact List.mem_cons_of_mem _ List.mem_cons_self
  · refine ⟨⟨1, .tables, 0, ()⟩, ⟨3, .tables, 0, ()⟩, nofun, rfl, ⟨?_, rfl⟩, ⟨?_, rfl⟩, rfl, rfl⟩
    · exact List.mem_cons_self
    · exact List.mem_cons_of_mem _ (List.mem_cons_of_mem _ List.mem_cons_self)

end DbConsole.Cache.Run

import DbConsole.Proofs.Cache.SingleRead
import DbConsole.Proofs.Console.Caution
import DbConsole.Proofs.Console.Course

/-!
What a change that fails leaves behind, when nothing else is done with the console: the view and the
cache are as they were, except that a change of rows has read the columns of the table.
-/
set_option autoImplicit false

namespace DbConsole.Console

variable {α : Type}

/-- The task does no more than let such fetches land. -/
def Brings (flights : Set (Flight Unit)) (t : ConsoleTask α) : Prop :=
  t.Within fun c c' => c'.workspace = c.workspace ∧
    (c'.cache = c.cache ∨ ∃ f ∈ flights, ∃ now outcome, c'.cache = c.cache.land now f outcome)

theorem Brings.fly {R : Type} {flights : Set (Flight Unit)} (settings : CacheSettings)
    {f : Flight Unit} (member : f ∈ flights) :
    Brings flights (flying settings f : ConsoleTask (Option R)) :=
  within_flying settings f fun c outcome => ⟨rfl, Or.inr ⟨f, member, c.now, outcome, rfl⟩⟩

/-- Nothing is begun, evicted or selected. -/
def Happening.isQuiet {E : Type} : Happening E → Bool
  | .begin _ => false
  | .collect _ => false
  | .select _ => false
  | _ => true

/-- A single action from any console at rest, before a backend that answers as it likes. -/
structure Solo (E : Type) where
  submit : E → Request → E × Answer Reply
  start : Console
  world : E
  action : Action
  happens : Nat → Happening E
  /-- No fetch is on its way. -/
  rests : start.cache.departures = []
  quiet : ∀ n, (happens n).isQuiet = true

namespace Solo

variable {E : Type} (s : Solo E)

def pool : Nat → Operations E
  | 0 => (Pool.init s.start s.world).spawn (Nat.repr 0) s.action.task
  | n + 1 => (s.happens n).apply s.submit (n + 1) (pool n)

def console (n : Nat) : Console :=
  (s.pool n).state

def returned? (n : Nat) : Option (Except Error Returned) :=
  (s.pool n).result? (Nat.repr 0)

/-- How far the action has got without success: whether it may still read, and the fetches that it
has started. -/
inductive Progress (c : Console) : Option Key → Set (Flight Unit) → Prop
  | before (same : c.cache = s.start.cache) : Progress c s.action.reads? ∅
  | behind (key : Key) (now : Nat) (reads : s.action.reads? = some key)
    (taken : c.cache.departures = [])
    (landed : (s.start.cache.read now key .cached ()).1.LandedAtMost c.cache.entries) :
    Progress c none {f | f ∈ (s.start.cache.read now key .cached ()).1.departures}

/-- What is left of the action. -/
def Expected (n : Nat) (t : ConsoleTask (Option (Except Error Returned))) : Prop :=
  Ensures Returns t ∨ ∃ key? flights, (s.console n).workspace = s.start.workspace ∧
    s.Progress (s.console n) key? flights ∧ Cautious Returns t key? ∧
    (s.pool n).AllLeft fun name t => name ≠ Nat.repr 0 → Brings flights t

variable {s} {c c' : Console} {key? : Option Key} {flights : Set (Flight Unit)} {n : Nat}
  {t : ConsoleTask (Option (Except Error Returned))}

namespace Progress

theorem departures_eq (progress : s.Progress c key? flights) : c.cache.departures = [] := by
  cases progress with
  | before same => exact same ▸ s.rests
  | behind key now reads taken landed => exact taken

theorem of_cache (progress : s.Progress c key? flights) (same : c'.cache = c.cache) :
    s.Progress c' key? flights := by
  cases progress with
  | before started => exact .before (same.trans started)
  | behind key now reads taken landed =>
    exact .behind key now reads (same ▸ taken) (same ▸ landed)

/-- A landing of a fetch that the action has started makes no difference but once. -/
theorem land (progress : s.Progress c key? flights) {f : Flight Unit} (member : f ∈ flights)
    {now : Nat} {outcome : Except Error Payload} (lands : c'.cache = c.cache.land now f outcome) :
    s.Progress c' key? flights := by
  cases progress with
  | before started => exact member.elim
  | behind key begun reads taken landed =>
    refine .behind key begun reads ?_ ?_ <;> rw [lands]
    · rw [Cache.departures_land]
      exact taken
    · refine landed.land rfl member fun g departed => ?_
      exact (Cache.departed_of_read s.rests departed).1.trans
        (Cache.departed_of_read s.rests member).1.symm

end Progress

/-- What the visit to a fetch leaves. -/
theorem Progress.advanceThrough (progress : s.Progress c key? flights) (brings : Brings flights t)
    (view : c.workspace = s.start.workspace) (waits : Nat) :
    Brings flights (t.advanceThrough waits c).2 ∧
      s.Progress (t.advanceThrough waits c).1 key? flights ∧
      (t.advanceThrough waits c).1.workspace = s.start.workspace := by
  refine Task.advanceBy_keeps (fun c t => Brings flights t ∧ s.Progress c key? flights ∧
    c.workspace = s.start.workspace) ?_ ?_ ⟨brings, progress, view⟩ _
  · rintro c update next ⟨brings, progress, view⟩
    obtain ⟨sameView, same | ⟨f, member, now, outcome, lands⟩⟩ := brings.1 c
    · exact ⟨brings.2 c, progress.of_cache same, sameView.trans view⟩
    · exact ⟨brings.2 c, progress.land member lands, sameView.trans view⟩
  · exact fun _ _ _ held => held

/-! ### What happens to the console -/

/-- A visit leaves the console as the task has made it, with the departures taken up. -/
theorem console_succ {place waits : Nat} {name : String}
    (happens : s.happens n = .visit place waits)
    (found : (s.pool n).threads[place]? = some (name, .ready t)) :
    s.console (n + 1) = { (t.advanceThrough waits (s.console n)).1 with
      cache := (t.advanceThrough waits (s.console n)).1.cache.takeDepartures.2 } := by
  rw [console, pool, happens, Happening.apply, Pool.state_visit found]
  rfl

/-- The fetches that are on their way behind a visit. -/
theorem brings_succ {flights' : Set (Flight Unit)} {place waits : Nat} {name : String}
    (happens : s.happens n = .visit place waits)
    (found : (s.pool n).threads[place]? = some (name, .ready t))
    (others : (s.pool n).AllLeft fun name t => name ≠ Nat.repr 0 → Brings flights t)
    (more : flights ⊆ flights')
    (here : name ≠ Nat.repr 0 → Brings flights' (t.advanceThrough waits (s.console n)).2)
    (departed : ∀ f ∈ (t.advanceThrough waits (s.console n)).1.cache.departures, f ∈ flights') :
    (s.pool (n + 1)).AllLeft fun name t => name ≠ Nat.repr 0 → Brings flights' t := by
  rw [pool, happens]
  refine others.visit_resumes found (fun _ _ _ _ _ left => left.mono fun _ held apart => ?_) ?_ ?_
  · refine (held apart).mono fun c c' => And.imp_right (Or.imp_right ?_)
    exact fun ⟨f, member, brought⟩ => ⟨f, more member, brought⟩
  · exact .of_holds here (fun question next reply brings _ apart => brings apart reply)
      fun time next brings => brings
  · intro fetch among _
    obtain ⟨f, member, _, rfl⟩ := exists_flying_of_started among
    exact Brings.fly _ (departed f member)

theorem expected_of_visit {place waits : Nat} (happens : s.happens n = .visit place waits)
    (found : (s.pool n).threads[place]? = some (Nat.repr 0, .ready t)) (expected : s.Expected n t) :
    s.Expected (n + 1) (t.advanceThrough waits (s.console n)).2 := by
  have after := console_succ happens found
  rcases expected with ensures | ⟨key?, flights, view, progress, cautious, others⟩
  · exact Or.inl (ensures.advanceThrough waits (s.console n))
  rcases cautious.advanceThrough waits (s.console n) with
    ensures | ⟨cautious', same⟩ | ⟨key, isKey, cautious', same⟩
  · exact Or.inl ensures
  · -- The console is as it was.
    rw [same, Cache.takeDepartures_of_nil progress.departures_eq] at after
    refine Or.inr ⟨key?, flights, ?_, ?_, cautious', ?_⟩
    · rw [after]
      exact view
    · rw [after]
      exact progress
    · refine brings_succ happens found others subset_rfl (fun apart => absurd rfl apart) ?_
      rw [same, progress.departures_eq]
      exact nofun
  · -- The key has been read, so nothing more will be.
    rw [same] at after
    cases progress with
    | behind _ _ _ _ _ => cases isKey
    | before unread =>
      refine Or.inr ⟨none, _, ?_, .behind key (s.console n).now isKey ?_ (Or.inl ?_), cautious', ?_⟩
      · rw [after]
        exact view
      · rw [after]
        rfl
      · rw [after, reading, unread]
        rfl
      · refine brings_succ happens found others (Set.empty_subset _) (fun apart => absurd rfl apart)
          ?_
        rw [same, reading, unread]
        exact fun f member => member

theorem expected_of_others
    (others : ∀ place waits t, s.happens n = .visit place waits →
      (s.pool n).threads[place]? ≠ some (Nat.repr 0, .ready t))
    (expected : s.Expected n t) : s.Expected (n + 1) t := by
  rcases expected with ensures | ⟨key?, flights, view, progress, cautious, left⟩
  · exact Or.inl ensures
  refine Or.inr ⟨key?, flights, ?_⟩
  have quiet := s.quiet n
  cases happens : s.happens n with
  | begin action => rw [happens] at quiet; cases quiet
  | collect now => rw [happens] at quiet; cases quiet
  | select change => rw [happens] at quiet; cases quiet
  | visit place waits =>
    by_cases ready : ∃ name t, (s.pool n).threads[place]? = some (name, .ready t)
    · obtain ⟨name, fetch, found⟩ := ready
      have apart : name ≠ Nat.repr 0 := fun same => others place waits fetch happens (same ▸ found)
      have brings : Brings flights fetch := left name _ (List.mem_of_getElem? found) apart
      obtain ⟨brings', progress', view'⟩ := progress.advanceThrough brings view waits
      have after := console_succ happens found
      rw [Cache.takeDepartures_of_nil progress'.departures_eq] at after
      refine ⟨?_, ?_, cautious, ?_⟩
      · rw [after]
        exact view'
      · rw [after]
        exact progress'
      · refine brings_succ happens found left subset_rfl (fun _ => brings') ?_
        rw [progress'.departures_eq]
        exact nofun
    · have same : s.pool (n + 1) = s.pool n := by
        rw [pool, happens]
        exact (Pool.visit_of_not_ready fun name t found => ready ⟨name, t, found⟩).1
      rw [console, same]
      exact ⟨view, progress, cautious, left⟩
  | release gate =>
    rw [console, pool, happens]
    exact ⟨view, progress, cautious, left.release gate⟩
  | wake time =>
    rw [console, pool, happens]
    exact ⟨view, progress, cautious, left.wake time⟩
  | tidy =>
    rw [console, pool, happens]
    exact ⟨view, progress, cautious, left.tidy⟩
  | elapse now =>
    rw [console, pool, happens]
    exact ⟨view, progress.of_cache rfl, cautious, left⟩
  | outside change =>
    rw [console, pool, happens]
    exact ⟨view, progress, cautious, left⟩

theorem Expected.called {question : Console → Request}
    {next : Reply → ConsoleTask (Option (Except Error Returned))} (reply : Reply)
    (expected : s.Expected n (.call question next)) : s.Expected n (next reply) := by
  rcases expected with ensures | ⟨key?, flights, view, progress, cautious, left⟩
  · exact Or.inl (ensures reply)
  · exact Or.inr ⟨key?, flights, view, progress, cautious reply, left⟩

theorem Expected.slept {time : Nat} {next : ConsoleTask (Option (Except Error Returned))}
    (expected : s.Expected n (.sleep time next)) : s.Expected n next := by
  rcases expected with ensures | ⟨key?, flights, view, progress, cautious, left⟩
  · exact Or.inl ensures
  · exact Or.inr ⟨key?, flights, view, progress, cautious, left⟩

variable (s) in
/-- The action and what happens behind it, as a history of tasks. -/
def history : History (systemBefore s.submit (Except Error Returned)) where
  start := s.start
  world := s.world
  happens
    | 0 => .begin s.action.task
    | n + 1 => (s.happens n).event

theorem history_pool (n : Nat) : s.history.pool (n + 1) = s.pool n := by
  induction n with
  | zero => rfl
  | succ n ih =>
    rw [History.pool_succ, ih]
    exact (s.happens n).apply_event s.submit (n + 1) (s.pool n)

theorem expected (changes : s.action.changes = true) (n : Nat) :
    (s.pool n).AllLeft fun name t => name = Nat.repr 0 → s.Expected n t := by
  rw [← history_pool]
  refine History.tracked (fun m t => s.Expected (m - 1) t) rfl ?_ ?_ ?_ (Nat.succ_pos n)
  · refine Or.inr ⟨_, ∅, rfl, .before rfl, Action.cautious changes, ?_⟩
    exact (Pool.AllLeft.init _ _).spawn _ _ fun apart => absurd rfl apart
  · intro m place waits t lt visits found held
    obtain ⟨k, rfl⟩ := Nat.exists_eq_succ_of_ne_zero (Nat.ne_of_gt lt)
    have happens := (s.happens k).eq_visit_of_event visits
    rw [Nat.succ_eq_add_one, history_pool] at found
    have same : s.history.state (k + 1) = s.console k := congrArg Pool.state (history_pool k)
    rw [Nat.succ_eq_add_one, same]
    exact .of_holds (expected_of_visit happens found held)
      (fun question next reply asks _ => asks.called reply) fun time next => Expected.slept
  · intro m t lt quiet held
    obtain ⟨k, rfl⟩ := Nat.exists_eq_succ_of_ne_zero (Nat.ne_of_gt lt)
    refine expected_of_others (fun place waits t' happens found => ?_) held
    exact quiet t' ⟨place, waits, congrArg Happening.event happens, (history_pool k).symm ▸ found⟩

end Solo

/-- The view and the cache are as they were, except that the key may have been read once. No key has
been invalidated. -/
structure Unharmed (key? : Option Key) (c c' : Console) : Prop where
  view : c'.workspace = c.workspace
  entries : key? = none → c'.cache.entries = c.cache.entries
  read : ∀ key, key? = some key → c.cache.ReadAtMost key () c'.cache.entries
  others : ∀ key, key? ≠ some key → c'.cache.lookup? key = c.cache.lookup? key
  trusting : ∀ key, c.cache.Trusting key c'.cache

namespace Solo

variable {E : Type} {s : Solo E}

theorem Progress.unharmed {c : Console} {key? : Option Key} {flights : Set (Flight Unit)}
    (progress : s.Progress c key? flights) (view : c.workspace = s.start.workspace) :
    Unharmed s.action.reads? s.start c := by
  cases progress with
  | before same =>
    exact ⟨view, fun _ => same ▸ rfl, fun _ _ => Or.inl (same ▸ rfl), fun _ _ => same ▸ rfl,
      fun _ => .of_lookup? (same ▸ rfl)⟩
  | behind key now reads taken landed =>
    have once : s.start.cache.ReadAtMost key () c.cache.entries := Or.inr ⟨now, landed⟩
    rw [reads]
    refine ⟨view, nofun, ?_, ?_, once.trusting s.rests⟩
    · rintro _ ⟨⟩
      exact once
    · exact fun other apart => once.lookup?_eq s.rests fun same => apart (congrArg some same)

/-- A change that fails, with nothing else being done, leaves the view and the cache unharmed, from
whatever console it starts and whatever the backend answers. -/
theorem unharmed_of_failure (s : Solo E) (changes : s.action.changes = true) {n : Nat} {e : Error}
    (failed : s.returned? n = some (.error e)) :
    Unharmed s.action.reads? s.start (s.console n) := by
  rcases expected changes n _ _ (Pool.mem_of_result? failed) rfl with
    ⟨returned, same⟩ | ⟨_, _, view, progress, _, _⟩
  · cases same
  · exact progress.unharmed view

/-! ### A row that is not deleted -/

/-- A backend that tells the columns of a table and refuses to change it. -/
def refusingBackend (_ : Unit) (request : Request) : Unit × Answer Reply :=
  let text := match request.method with
    | .get => "\x7b\"success\":true,\"data\":\x7b\"columns\":[\x7b\"name\":\"id\"," ++
      "\"data_type\":\"INTEGER\",\"nullable\":false,\"is_primary_key\":true," ++
      "\"default_value\":null\x7d]\x7d\x7d"
    | _ => "\x7b\"success\":false,\"error\":\"locked\"\x7d"
  ((), .now (.answered ⟨200⟩ (some text)))

/-- The list of tables has been read. -/
def listedCache : Cache Payload Unit :=
  (((Cache.empty ⟨1000, 1000, 0, 0⟩).read 0 .tables .cached ()).1.land 0 ⟨1, .tables, 0, ()⟩
    (.ok (.tables []))).takeDepartures.2

/-- A row of the selected table is to be deleted, which the backend refuses. -/
def refused : Solo Unit where
  submit := refusingBackend
  start :=
    { base := ⟨"http", "", none, some (.named "db"), none, .segments [], none, none⟩
      timeout := none
      tokens := .memory none
      cache := listedCache
      session := .initial
      published := []
      probing := false
      workspace := Workspace.initial.selectTable (some "t")
      collecting := false
      now := 0 }
  world := ()
  action := .operate (.change (.deleteRow "t" ⟨"7"⟩ true))
  happens
    | 0 => .visit 0 1
    | 1 => .visit 1 0
    | 2 => .visit 1 1
    | 3 => .visit 0 1
    | 4 => .visit 0 0
    | _ => .tidy
  rests := rfl
  quiet n := by
    match n with
    | 0 | 1 | 2 | 3 | 4 | _ + 5 => rfl

/-- The columns have been read and stay there, as does the list of tables. -/
theorem refused_unharmed :
    refused.action.changes = true ∧ (∃ e, refused.returned? 5 = some (.error e)) ∧
      Unharmed (some (.columns "t")) refused.start (refused.console 5) ∧
      (refused.console 5).cache.entries.map Prod.fst = [.tables, .columns "t"] := by
  have failed : (refused.returned? 5).any (·.toOption.isNone) := by decide +kernel
  obtain ⟨e, returned⟩ := exists_error_of_any failed
  exact ⟨rfl, ⟨e, returned⟩, unharmed_of_failure refused rfl returned, by decide +kernel⟩

end Solo

end DbConsole.Console

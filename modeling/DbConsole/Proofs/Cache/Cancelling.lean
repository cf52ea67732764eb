import DbConsole.Proofs.Cache.Run
import DbConsole.Proofs.Cache.SingleRead
import DbConsole.Proofs.Task.Absence

/-!
A cache with its readers and the fetches behind them as tasks side by side. A reader that has gone on from
its beginning only waits for what its fetch brings, so nobody else can tell whether it has been cancelled
since.
-/
set_option autoImplicit false

namespace DbConsole.Cache

variable {V J α E : Type}

/-- The task of a reader. -/
def reader (key : Key) (policy : FetchPolicy) (job : J) (cast : V → Option α) :
    Task (Cache V J × Nat) J (Except Error V) (Option (Except Error α)) :=
  (fetch key policy job cast).bind fun r => .done (some r)

/-- How readers and fetches run before an outside that does the jobs. The fetches that reads let depart are
taken up at once and run on their own. -/
def systemFor (submit : E → J → E × Answer (Except Error V)) (α : Type) :
    System (Cache V J × Nat) E J (Except Error V) (Except Error α) where
  submit := submit
  started s :=
    (s.1.departures.map fun f =>
      (fly s.1.settings f (Task.ask fun _ => f.job)).bind fun _ => .done none,
      (s.1.takeDepartures.2, s.2))
  idle s := s

/-- What happens next. Readers are told apart by the order in which they come, fetches by their order among
those that are there. -/
inductive Doing (V J α E : Type) where
  | come (key : Key) (policy : FetchPolicy) (job : J) (cast : V → Option α)
  /-- A reader goes on. -/
  | attend (reader waits : Nat)
  /-- A fetch goes on. -/
  | further (fetch waits : Nat)
  | cancel (reader : Nat)
  | release (gate : String)
  | wake (time : Nat)
  | tidy
  | invalidate (filters : List Filter)
  | clear
  | collect (now : Nat)
  | elapse (now : Nat)
  /-- The outside changes by itself. -/
  | outside (f : E → E)

namespace Doing

def isCome : Doing V J α E → Bool
  | .come .. => true
  | _ => false

def isAttend : Doing V J α E → Bool
  | .attend .. => true
  | _ => false

def isCancel : Doing V J α E → Bool
  | .cancel _ => true
  | _ => false

end Doing

/-- A cache, its readers and its fetches. -/
structure Crowd (V J α E : Type) where
  pool : Pool (Cache V J × Nat) E J (Except Error V) (Except Error α)
  /-- How many readers have come. -/
  readers : Nat
  /-- The jobs that have been asked for. -/
  calls : List J

namespace Crowd

def empty (settings : CacheSettings) (world : E) : Crowd V J α E :=
  ⟨.init (.empty settings, 0) world, 0, []⟩

variable (submit : E → J → E × Answer (Except Error V))

/-- A task of the name goes on. -/
def visit (c : Crowd V J α E) (name : String) (nth waits : Nat) : Crowd V J α E :=
  { c with
    pool := c.pool.attend (systemFor submit α) name nth waits
    calls := c.calls ++
      ((c.pool.attendSends? (systemFor submit α) name nth waits).map Prod.snd).toList }

def change (c : Crowd V J α E) (f : Cache V J → Cache V J) : Crowd V J α E :=
  { c with pool := { c.pool with state := (f c.pool.state.1, c.pool.state.2) } }

def step (c : Crowd V J α E) : Doing V J α E → Crowd V J α E
  | .come key policy job cast =>
    { c with
      pool := c.pool.spawn c.readers.repr (Cache.reader key policy job cast)
      readers := c.readers + 1 }
  | .attend reader waits => c.visit submit reader.repr 0 waits
  | .further fetch waits => c.visit submit "" fetch waits
  | .cancel reader => { c with pool := c.pool.cancel reader.repr }
  | .release gate => { c with pool := c.pool.release gate }
  | .wake time => { c with pool := c.pool.wake time }
  | .tidy => { c with pool := c.pool.tidy }
  | .invalidate filters => c.change (·.invalidate filters)
  | .clear => c.change (·.clear)
  | .collect now => c.change (·.collect now)
  | .elapse now => { c with pool := { c.pool with state := (c.pool.state.1, now) } }
  | .outside f => { c with pool := { c.pool with world := f c.pool.world } }

def after (settings : CacheSettings) (world : E) (doings : List (Doing V J α E)) : Crowd V J α E :=
  doings.foldl (step submit) (empty settings world)

end Crowd

/-! ### Readers -/

theorem reader_eq (key : Key) (policy : FetchPolicy) (job : J) (cast : V → Option α) :
    reader key policy job cast = .wait (fun _ => true)
      (.act (fun s => ((s.1.read s.2 key policy job).1, s.2)) fun s =>
        (finishRead key cast (s.1.read s.2 key policy job).2).bind fun r => .done (some r)) :=
  rfl

theorem watches_finishRead (key : Key) (cast : V → Option α) (reading : Reading V) :
    (finishRead key cast reading :
      Task (Cache V J × Nat) J (Except Error V) (Except Error α)).Watches := by
  cases reading with
  | served v => trivial
  | awaiting id => exact ⟨fun _ => rfl, fun _ => trivial⟩

/-- A visit leaves a reader where it begins, or goes through to where it only watches. -/
theorem reader_advanceThrough (key : Key) (policy : FetchPolicy) (job : J) (cast : V → Option α)
    (s : Cache V J × Nat) (waits : Nat) :
    ((reader key policy job cast).advanceThrough waits s).2 = reader key policy job cast ∧ waits = 0 ∨
      ((reader key policy job cast).advanceThrough waits s).2.Watches := by
  cases waits with
  | zero => exact Or.inl ⟨rfl, rfl⟩
  | succ waits =>
    have through : (reader key policy job cast).advanceThrough (waits + 1) s =
        ((finishRead key cast (s.1.read s.2 key policy job).2).bind fun r =>
          .done (some r)).advanceThrough waits ((s.1.read s.2 key policy job).1, s.2) := by
      rw [reader_eq, Task.advanceThrough, Task.reach, if_pos rfl, Task.advanceBy, if_pos rfl]
      exact Task.advanceThrough_act ..
    rw [through]
    refine Or.inr (Task.Watches.advanceThrough ?_ _ _).2
    exact (watches_finishRead key cast _).bind fun _ => trivial

/-- What is known of the thread of a reader: it has not begun yet, or it only watches. -/
def Reads (began : Prop) (th : Thread (Cache V J × Nat) J (Except Error V) (Except Error α)) : Prop :=
  (¬ began ∧ ∃ key policy job cast, th = .ready (reader key policy job cast)) ∨
    th.Left Task.Watches

/-- A reader that has stopped has begun, so it only watches when it goes on. -/
theorem Reads.resumed {began : Prop}
    {before th : Thread (Cache V J × Nat) J (Except Error V) (Except Error α)}
    (reads : Reads began before) (resumed : before.Resumed th) : Reads began th := by
  rcases reads with ⟨waiting, key, policy, job, cast, rfl⟩ | watches
  · cases resumed
    exact Or.inl ⟨waiting, key, policy, job, cast, rfl⟩
  · exact Or.inr (resumed.left watches)

/-- What is known of a reader behind a visit to it. -/
theorem Reads.visited {submit : E → J → E × Answer (Except Error V)} {began began' : Prop} {waits : Nat}
    {t : Task (Cache V J × Nat) J (Except Error V) (Option (Except Error α))}
    (reads : Reads began (.ready t)) (s : Cache V J × Nat)
    (p : Pool (Cache V J × Nat) E J (Except Error V) (Except Error α))
    (begins : began' → began ∨ 0 < waits) :
    Reads began' (p.suspend (systemFor submit α) (t.advanceThrough waits s).2).2 := by
  have watching (watches : (t.advanceThrough waits s).2.Watches) :
      Reads began' (p.suspend (systemFor submit α) (t.advanceThrough waits s).2).2 := by
    refine Or.inr (Pool.left_suspend _ (fun _ => watches) ?_ ?_)
    · intro question next a same _
      rw [same] at watches
      exact watches.elim
    · intro time next same
      rw [same] at watches
      exact watches
  rcases reads with ⟨waiting, key, policy, job, cast, same⟩ | watches
  · cases same
    rcases reader_advanceThrough key policy job cast s waits with ⟨stays, rfl⟩ | watches
    · rw [stays]
      refine Or.inl ⟨fun begun => (begins begun).elim waiting (Nat.lt_irrefl 0), ?_⟩
      exact ⟨key, policy, job, cast, rfl⟩
    · exact watching watches
  · exact watching (watches.advanceThrough waits s).2

namespace Crowd

variable {submit : E → J → E × Answer (Except Error V)} {c : Crowd V J α E} {began began' : Nat → Prop}

/-- Of some readers that have come it is known that they have begun. -/
structure Ordered (c : Crowd V J α E) (began : Nat → Prop) : Prop where
  rest : c.pool.state.1.departures = []
  sole : ∀ r, c.pool.Sole (Nat.repr r)
  named : ∀ r, Nat.repr r ∈ c.pool.names → r < c.readers
  came : ∀ r, began r → r < c.readers
  reads : ∀ r th, (Nat.repr r, th) ∈ c.pool.threads → Reads (began r) th

namespace Ordered

theorem empty (settings : CacheSettings) (world : E) :
    (Crowd.empty settings world : Crowd V J α E).Ordered fun _ => False where
  rest := rfl
  sole _ := .nil
  named _ member := nomatch member
  came _ := False.elim
  reads _ _ member := nomatch member

theorem come (ordered : c.Ordered began) (key : Key) (policy : FetchPolicy) (job : J)
    (cast : V → Option α) : (c.step submit (.come key policy job cast)).Ordered began where
  rest := ordered.rest
  sole r := by
    by_cases new : c.readers.repr = r.repr
    · have absent : Nat.repr r ∉ c.pool.names := fun member => by
        cases Nat.repr_injective new
        exact Nat.lt_irrefl _ (ordered.named _ member)
      have sole := Pool.Sole.spawned absent (reader key policy job cast)
      rwa [← new] at sole ⊢
    · exact (ordered.sole r).spawn new _
  named r member := by
    change _ ∈ (Pool.spawn _ _ _).names at member
    rw [Pool.names_spawn] at member
    rcases List.mem_append.mp member with old | new
    · exact Nat.lt_succ_of_lt (ordered.named r old)
    · cases Nat.repr_injective (List.mem_singleton.mp new)
      exact Nat.lt_succ_self _
  came r began := Nat.lt_succ_of_lt (ordered.came r began)
  reads r th member := by
    rcases List.mem_append.mp member with old | new
    · exact ordered.reads r th old
    · obtain ⟨same, rfl⟩ := Prod.mk.inj (List.mem_singleton.mp new)
      refine Or.inl ⟨fun begun => ?_, key, policy, job, cast, rfl⟩
      exact Nat.ne_of_lt (ordered.came r begun) (Nat.repr_injective same)

theorem change (ordered : c.Ordered began) (f : Cache V J → Cache V J)
    (quiet : ∀ cache, (f cache).departures = cache.departures) : (c.change f).Ordered began where
  rest := (quiet _).trans ordered.rest
  sole := ordered.sole
  named := ordered.named
  came := ordered.came
  reads := ordered.reads

/-- The threads are replaced, each by one that has its name and of which no less is known. -/
theorem map (ordered : c.Ordered began)
    {pool : Pool (Cache V J × Nat) E J (Except Error V) (Except Error α)}
    (state : pool.state = c.pool.state) (names : pool.names.Sublist c.pool.names)
    (reads : ∀ r th, (Nat.repr r, th) ∈ pool.threads → Reads (began r) th) :
    ({ c with pool := pool } : Crowd V J α E).Ordered began where
  rest := state ▸ ordered.rest
  sole r := (ordered.sole r).sublist names
  named r member := ordered.named r (names.subset member)
  came := ordered.came
  reads := reads

theorem release (ordered : c.Ordered began) (gate : String) :
    ({ c with pool := c.pool.release gate } : Crowd V J α E).Ordered began := by
  refine ordered.map rfl (by rw [Pool.names_release]) fun r th member => ?_
  obtain ⟨before, was, resumed⟩ := Pool.exists_resumed_of_release member
  exact (ordered.reads r before was).resumed resumed

theorem wake (ordered : c.Ordered began) (time : Nat) :
    ({ c with pool := c.pool.wake time } : Crowd V J α E).Ordered began := by
  refine ordered.map rfl (by rw [Pool.names_wake]) fun r th member => ?_
  obtain ⟨before, was, resumed⟩ := Pool.exists_resumed_of_wake member
  exact (ordered.reads r before was).resumed resumed

theorem tidy (ordered : c.Ordered began) :
    ({ c with pool := c.pool.tidy } : Crowd V J α E).Ordered began :=
  ordered.map rfl Pool.names_tidy fun r th member => ordered.reads r th (List.mem_filter.mp member).1

variable {name : String} {place waits nth : Nat}
  {th : Thread (Cache V J × Nat) J (Except Error V) (Except Error α)}
  {t : Task (Cache V J × Nat) J (Except Error V) (Option (Except Error α))}

/-- What is known of all readers is known again if it is known of the ones of the one name. -/
theorem reads_of_others (ordered : c.Ordered began)
    (more : ∀ r, began' r → began r ∨ (name = Nat.repr r ∧ 0 < waits)) {r : Nat}
    (member : (Nat.repr r, th) ∈ c.pool.threads) (apart : name ≠ Nat.repr r) : Reads (began' r) th :=
  (ordered.reads r th member).imp
    (And.imp_left fun waiting begun => (more r begun).elim waiting fun new => apart new.1) id

theorem visit_of_ready (ordered : c.Ordered began) (calls : List J)
    (found : c.pool.threads[place]? = some (name, .ready t))
    (came : ∀ r, began' r → r < c.readers)
    (more : ∀ r, began' r → began r ∨ (name = Nat.repr r ∧ 0 < waits)) :
    (⟨c.pool.visit (systemFor submit α) place waits, c.readers, calls⟩ :
      Crowd V J α E).Ordered began' where
  rest := by
    dsimp only
    rw [Pool.state_visit found]
    rfl
  sole r := (ordered.sole r).visit Nat.repr_ne_empty place waits
  named r member := by
    obtain ⟨count, same⟩ := Pool.exists_names_visit (systemFor submit α) c.pool place waits
    dsimp only at member
    rw [same] at member
    rcases List.mem_append.mp member with old | unnamed
    · exact ordered.named r old
    · exact absurd (List.eq_of_mem_replicate unnamed) Nat.repr_ne_empty
  came := came
  reads r th member := by
    obtain ⟨i, at_i⟩ := List.mem_iff_getElem?.mp member
    dsimp only at at_i
    rw [Pool.getElem?_visit found] at at_i
    split at at_i
    · obtain ⟨rfl, rfl⟩ := Prod.mk.inj (Option.some.inj at_i)
      exact (ordered.reads r _ (List.mem_of_getElem? found)).visited _ _ fun begun =>
        (more r begun).imp id And.right
    · rename_i apart
      rw [Pool.proceed] at at_i
      by_cases old : i < c.pool.threads.length
      · rw [List.getElem?_append_left old] at at_i
        refine ordered.reads_of_others more (List.mem_of_getElem? at_i) fun mine => apart ?_
        exact (ordered.sole r).eq_of_getElem? (mine ▸ found) at_i
      · rw [List.getElem?_append_right (Nat.le_of_not_lt old)] at at_i
        obtain ⟨_, _, same⟩ := List.mem_map.mp (List.mem_of_getElem? at_i)
        exact absurd (congrArg Prod.fst same).symm Nat.repr_ne_empty

theorem of_not_ready (ordered : c.Ordered began) (calls : List J)
    (found : c.pool.threads[place]? = some (name, th)) (idle : ∀ t, th ≠ .ready t)
    (came : ∀ r, began' r → r < c.readers)
    (more : ∀ r, began' r → began r ∨ (name = Nat.repr r ∧ 0 < waits)) :
    (⟨c.pool, c.readers, calls⟩ : Crowd V J α E).Ordered began' where
  rest := ordered.rest
  sole := ordered.sole
  named := ordered.named
  came := came
  reads r th' member := by
    by_cases mine : name = Nat.repr r
    · subst mine
      obtain ⟨i, at_i⟩ := List.mem_iff_getElem?.mp member
      cases (ordered.sole r).eq_of_getElem? found at_i
      cases found.symm.trans at_i
      exact Or.inr ((ordered.reads r th member).resolve_left
        fun ⟨_, _, _, _, _, same⟩ => idle _ same)
    · exact ordered.reads_of_others more member mine

/-- What is known behind a visit: if it goes through the beginning of a reader, that has begun. -/
theorem visit (ordered : c.Ordered began) (came : ∀ r, began' r → r < c.readers)
    (more : ∀ r, began' r → began r ∨ (name = Nat.repr r ∧ 0 < waits ∧ nth = 0)) :
    (c.visit submit name nth waits).Ordered began' := by
  have more' (r : Nat) (begun : began' r) : began r ∨ (name = Nat.repr r ∧ 0 < waits) :=
    (more r begun).imp id fun new => ⟨new.1, new.2.1⟩
  rw [Crowd.visit, Pool.attend]
  cases here : c.pool.place? name nth with
  | none =>
    refine ⟨ordered.rest, ordered.sole, ordered.named, came, fun r th member => ?_⟩
    refine (ordered.reads r th member).imp (And.imp_left fun waiting begun => ?_) id
    rcases more r begun with old | ⟨rfl, _, rfl⟩
    · exact waiting old
    · have other := not_wanted_of_placeOf? here member
      simp at other
  | some place =>
    obtain ⟨th, found⟩ := Pool.exists_of_place? here
    by_cases ready : ∃ t, th = .ready t
    · obtain ⟨t, rfl⟩ := ready
      exact ordered.visit_of_ready _ found came more'
    · dsimp only
      rw [(Pool.visit_of_not_ready fun visited t there => ?_).1]
      · exact ordered.of_not_ready _ found (fun t same => ready ⟨t, same⟩) came more'
      · cases found.symm.trans there
        exact ready ⟨t, rfl⟩

end Ordered

end Crowd

/-! ### Cancellations -/

/-- How many readers have come. -/
def comes (doings : List (Doing V J α E)) : Nat :=
  doings.countP Doing.isCome

/-- The reader has come and then gone on from its beginning. -/
def Began (doings : List (Doing V J α E)) (reader : Nat) : Prop :=
  ∃ before waits, before ++ [.attend reader waits] <+: doings ∧ 0 < waits ∧ reader < comes before

/-- Readers are cancelled only when they have gone on from their beginning. -/
def Late (doings : List (Doing V J α E)) : Prop :=
  ∀ before reader, before ++ [.cancel reader] <+: doings → Began before reader

/-- The same without cancellations. -/
def uncancelled (doings : List (Doing V J α E)) : List (Doing V J α E) :=
  doings.filter fun d => !d.isCancel

/-- Whether a reader of the name has been cancelled. -/
def gone (doings : List (Doing V J α E)) (name : String) : Bool :=
  doings.any fun
    | .cancel reader => name == reader.repr
    | _ => false

section

variable {doings before : List (Doing V J α E)} {d : Doing V J α E} {reader : Nat}

theorem Began.of_part (began : Began before reader) (is : before <+: doings) :
    Began doings reader := by
  obtain ⟨first, waits, part, facts⟩ := began
  exact ⟨first, waits, part.trans is, facts⟩

theorem began_concat : Began (doings ++ [d]) reader ↔ Began doings reader ∨
    ∃ waits, d = .attend reader waits ∧ 0 < waits ∧ reader < comes doings := by
  constructor
  · rintro ⟨first, waits, part, facts⟩
    rcases List.prefix_concat_iff.mp part with same | part
    · obtain ⟨rfl, last⟩ := List.append_inj' same rfl
      exact Or.inr ⟨waits, (List.cons.inj last).1.symm, facts⟩
    · exact Or.inl ⟨first, waits, part, facts⟩
  · rintro (began | ⟨waits, rfl, facts⟩)
    · exact began.of_part (List.prefix_append _ _)
    · exact ⟨doings, waits, List.prefix_rfl, facts⟩

theorem Late.of_part (late : Late doings) (is : before <+: doings) : Late before :=
  fun first reader part => late first reader (part.trans is)

theorem Late.began (late : Late doings) (cancelled : .cancel reader ∈ doings) :
    Began doings reader := by
  obtain ⟨first, rest, rfl⟩ := List.append_of_mem cancelled
  refine (late first reader ⟨rest, ?_⟩).of_part (List.prefix_append _ _)
  rw [List.append_assoc, List.singleton_append]

theorem gone_repr : gone doings (Nat.repr reader) = true ↔ .cancel reader ∈ doings := by
  rw [gone, List.any_eq_true]
  constructor
  · rintro ⟨d, member, same⟩
    cases d with
    | cancel other =>
      cases Nat.repr_injective (beq_iff_eq.mp same)
      exact member
    | _ => cases same
  · exact fun member => ⟨_, member, beq_self_eq_true _⟩

theorem gone_unnamed : gone doings "" = false := by
  refine List.any_eq_false.mpr fun d _ => ?_
  cases d with
  | cancel other => exact fun same => Nat.repr_ne_empty (beq_iff_eq.mp same).symm
  | _ => exact Bool.false_ne_true

theorem gone_concat (other : d.isCancel = false) : gone (doings ++ [d]) = gone doings := by
  funext name
  rw [gone, List.any_append, gone]
  cases d with
  | cancel reader => cases other
  | _ => exact Bool.or_false _

theorem gone_concat_cancel : gone (doings ++ [.cancel reader]) =
    fun name => gone doings name || name == Nat.repr reader := by
  funext name
  rw [gone, List.any_append, List.any_cons, List.any_nil, Bool.or_false]
  rfl

theorem comes_concat (other : d.isCome = false) : comes (doings ++ [d]) = comes doings := by
  rw [comes, List.countP_append, List.countP_singleton, other]
  rfl

/-- Only a visit lets a reader begin. -/
theorem began_concat_of_other (other : d.isAttend = false) :
    Began (doings ++ [d]) = Began doings := by
  refine funext fun reader => propext (began_concat.trans (or_iff_left ?_))
  rintro ⟨waits, rfl, _⟩
  cases other

end

namespace Crowd

variable (submit : E → J → E × Answer (Except Error V)) (settings : CacheSettings) (world : E)
  {doings before : List (Doing V J α E)} {d : Doing V J α E}

theorem after_concat : after submit settings world (doings ++ [d]) =
    (after submit settings world doings).step submit d := by
  rw [after, List.foldl_append]
  rfl

variable {submit settings world} {c c' : Crowd V J α E}

/-- How a run with cancellations differs from the one without them, and what is known of that one. -/
structure Parted (c c' : Crowd V J α E) (doings : List (Doing V J α E)) : Prop where
  pool : c.pool = c'.pool.without (gone doings)
  readers : c.readers = c'.readers
  calls : c.calls = c'.calls
  came : c'.readers = comes doings
  ordered : c'.Ordered (Began doings)

namespace Parted

theorem empty (settings : CacheSettings) (world : E) :
    Parted (Crowd.empty settings world : Crowd V J α E) (Crowd.empty settings world) [] where
  pool := rfl
  readers := rfl
  calls := rfl
  came := rfl
  ordered := by
    have none : Began ([] : List (Doing V J α E)) = fun _ => False :=
      funext fun _ => eq_false fun ⟨_, _, part, _⟩ => by
        simp at part
    rw [none]
    exact .empty settings world

theorem cancel (parted : Parted c c' doings) (reader : Nat) :
    Parted (c.step submit (.cancel reader)) c' (doings ++ [.cancel reader]) where
  pool := by
    rw [step, parted.pool, Pool.without_cancel, gone_concat_cancel]
  readers := parted.readers
  calls := parted.calls
  came := parted.came.trans (comes_concat rfl).symm
  ordered := by
    rw [began_concat_of_other rfl]
    exact parted.ordered

/-- What changes both pools alike and lets nobody come or begin. -/
theorem alike (parted : Parted c c' doings) (cancel : d.isCancel = false) (come : d.isCome = false)
    (attend : d.isAttend = false)
    {p p' : Pool (Cache V J × Nat) E J (Except Error V) (Except Error α)}
    (pool : p = p'.without (gone doings))
    (ordered : ({ c' with pool := p' } : Crowd V J α E).Ordered (Began doings)) :
    Parted { c with pool := p } { c' with pool := p' } (doings ++ [d]) where
  pool := by
    rw [gone_concat cancel]
    exact pool
  readers := parted.readers
  calls := parted.calls
  came := parted.came.trans (comes_concat come).symm
  ordered := by
    rw [began_concat_of_other attend]
    exact ordered

theorem change (parted : Parted c c' doings) (cancel : d.isCancel = false) (come : d.isCome = false)
    (attend : d.isAttend = false) (f : Cache V J → Cache V J)
    (quiet : ∀ cache, (f cache).departures = cache.departures) :
    Parted (c.change f) (c'.change f) (doings ++ [d]) := by
  refine parted.alike cancel come attend ?_ (parted.ordered.change f quiet)
  rw [parted.pool]
  rfl

theorem come (parted : Parted c c' doings) (late : Late doings) (key : Key) (policy : FetchPolicy)
    (job : J) (cast : V → Option α) :
    Parted (c.step submit (.come key policy job cast)) (c'.step submit (.come key policy job cast))
      (doings ++ [.come key policy job cast]) where
  pool := by
    have kept : gone doings c'.readers.repr = false := Bool.eq_false_iff.mpr fun absent =>
      Nat.lt_irrefl _ (parted.ordered.came _ (late.began (gone_repr.mp absent)))
    rw [gone_concat rfl, step, step, parted.readers, parted.pool, Pool.without_spawn kept]
  readers := congrArg (· + 1) parted.readers
  calls := parted.calls
  came := by
    rw [comes, List.countP_append, List.countP_singleton]
    exact congrArg (· + 1) parted.came
  ordered := by
    rw [began_concat_of_other rfl]
    exact parted.ordered.come key policy job cast

/-- Visits that are the same for both, and after which the same jobs have been asked for. -/
theorem visit (parted : Parted c c' doings) {name : String} {nth waits : Nat}
    (cancel : d.isCancel = false) (come : d.isCome = false)
    (pool : c.pool.attend (systemFor submit α) name nth waits =
      (c'.pool.attend (systemFor submit α) name nth waits).without (gone doings))
    (calls : c.pool.attendSends? (systemFor submit α) name nth waits =
      c'.pool.attendSends? (systemFor submit α) name nth waits)
    (more : ∀ r, Began (doings ++ [d]) r →
      Began doings r ∨ (name = Nat.repr r ∧ 0 < waits ∧ nth = 0)) :
    Parted (c.visit submit name nth waits) (c'.visit submit name nth waits) (doings ++ [d]) where
  pool := by
    rw [gone_concat cancel]
    exact pool
  readers := parted.readers
  calls := by
    rw [Crowd.visit, Crowd.visit, parted.calls, calls]
  came := parted.came.trans (comes_concat come).symm
  ordered := by
    refine parted.ordered.visit (fun r began => ?_) more
    rcases began_concat.mp began with before | ⟨_, _, _, came⟩
    · exact parted.ordered.came r before
    · exact parted.came ▸ came

theorem further (parted : Parted c c' doings) (fetch waits : Nat) :
    Parted (c.step submit (.further fetch waits)) (c'.step submit (.further fetch waits))
      (doings ++ [.further fetch waits]) := by
  refine parted.visit rfl rfl ?_ ?_ fun r began => ?_
  · rw [parted.pool]
    exact (Pool.without_attend gone_unnamed gone_unnamed).1
  · rw [parted.pool]
    exact (Pool.without_attend gone_unnamed gone_unnamed).2
  · rw [began_concat_of_other rfl] at began
    exact Or.inl began

/-- A reader that has been cancelled only watches where it has not been, so that makes no difference. -/
theorem attend (parted : Parted c c' doings) (late : Late doings) (reader waits : Nat) :
    Parted (c.step submit (.attend reader waits)) (c'.step submit (.attend reader waits))
      (doings ++ [.attend reader waits]) := by
  have more (r : Nat) (began : Began (doings ++ [.attend reader waits]) r) :
      Began doings r ∨ (Nat.repr reader = Nat.repr r ∧ 0 < waits ∧ 0 = 0) := by
    rcases began_concat.mp began with before | ⟨_, same, through, _⟩
    · exact Or.inl before
    · cases same
      exact Or.inr ⟨rfl, through, rfl⟩
  cases absent : gone doings (Nat.repr reader) with
  | true =>
    have began := late.began (gone_repr.mp absent)
    have watches (t : Task (Cache V J × Nat) J (Except Error V) (Option (Except Error α)))
        (member : (Nat.repr reader, .ready t) ∈ c'.pool.threads) : t.Watches :=
      (parted.ordered.reads reader (.ready t) member).resolve_left fun waiting => waiting.1 began
    have quiet : (systemFor submit α).started c'.pool.state = ([], c'.pool.state) := by
      rw [systemFor]
      dsimp only
      rw [takeDepartures_of_nil parted.ordered.rest, parted.ordered.rest]
      rfl
    refine parted.visit rfl rfl ?_ ?_ more
    · rw [parted.pool, (Pool.attend_of_gone absent).1, (Pool.attend_of_watches absent quiet watches).1]
    · rw [parted.pool, (Pool.attend_of_gone absent).2, (Pool.attend_of_watches absent quiet watches).2]
  | false =>
    refine parted.visit rfl rfl ?_ ?_ more
    · rw [parted.pool]
      exact (Pool.without_attend gone_unnamed absent).1
    · rw [parted.pool]
      exact (Pool.without_attend gone_unnamed absent).2

/-- Whatever is done but to cancel a reader is done to both. -/
theorem step (parted : Parted c c' doings) (late : Late doings) (d : Doing V J α E)
    (other : d.isCancel = false) : Parted (c.step submit d) (c'.step submit d) (doings ++ [d]) := by
  have ordered := parted.ordered
  cases d with
  | cancel reader => cases other
  | come key policy job cast => exact parted.come late key policy job cast
  | attend reader waits => exact parted.attend late reader waits
  | further fetch waits => exact parted.further fetch waits
  | release gate =>
    refine parted.alike rfl rfl rfl ?_ (ordered.release gate)
    rw [parted.pool, Pool.without_release]
  | wake time =>
    refine parted.alike rfl rfl rfl ?_ (ordered.wake time)
    rw [parted.pool, Pool.without_wake]
  | tidy =>
    refine parted.alike rfl rfl rfl ?_ (ordered.tidy)
    rw [parted.pool, Pool.without_tidy]
  | invalidate filters => exact parted.change rfl rfl rfl (·.invalidate filters) fun _ => rfl
  | clear => exact parted.change rfl rfl rfl (·.clear) fun _ => rfl
  | collect now => exact parted.change rfl rfl rfl (·.collect now) fun _ => rfl
  | elapse now =>
    refine parted.alike rfl rfl rfl ?_
      ⟨ordered.rest, ordered.sole, ordered.named, ordered.came, ordered.reads⟩
    rw [parted.pool]
    rfl
  | outside f =>
    refine parted.alike rfl rfl rfl ?_
      ⟨ordered.rest, ordered.sole, ordered.named, ordered.came, ordered.reads⟩
    rw [parted.pool]
    rfl

end Parted

theorem parted (late : Late doings) : Parted (after submit settings world doings)
    (after submit settings world (uncancelled doings)) doings := by
  induction doings using List.reverseRecOn with
  | nil => exact .empty settings world
  | append_singleton doings d ih =>
    have late' := late.of_part (List.prefix_append _ _)
    have parted := ih late'
    cases cancels : d.isCancel with
    | false =>
      have kept : uncancelled (doings ++ [d]) = uncancelled doings ++ [d] := by
        rw [uncancelled, List.filter_append, List.filter_singleton, cancels]
        rfl
      rw [kept, after_concat, after_concat]
      exact parted.step late' d cancels
    | true =>
      obtain ⟨reader, rfl⟩ : ∃ reader, d = .cancel reader := by
        cases d <;> cases cancels
        exact ⟨_, rfl⟩
      have dropped : uncancelled (doings ++ [.cancel reader]) = uncancelled doings := by
        rw [uncancelled, List.filter_append]
        exact List.append_nil _
      rw [dropped, after_concat]
      exact parted.cancel reader

/-- The fetches that are there, in the order in which they have been started. -/
def fetches (c : Crowd V J α E) :
    List (String × Thread (Cache V J × Nat) J (Except Error V) (Except Error α)) :=
  c.pool.threads.filter fun q => q.1 == ""

def result? (c : Crowd V J α E) (reader : Nat) : Option (Except Error α) :=
  c.pool.result? reader.repr

theorem Parted.fetches_eq (parted : Parted c c' doings) : c.fetches = c'.fetches := by
  rw [fetches, parted.pool, Pool.without, List.filter_filter, fetches]
  refine List.filter_congr fun q _ => ?_
  cases unnamed : q.1 == "" with
  | false => rfl
  | true =>
    rw [Pool.stays, beq_iff_eq.mp unnamed, gone_unnamed]
    rfl

/-- Readers may be cancelled wherever they have gone on from their beginning: at each point the cache with
all its entries, their generations and marks, what the fetches have got to, the jobs that have been asked
for and what they have done outside, and what the other readers have come to, are as if nobody had been
cancelled. -/
theorem cancelled_unnoticed (submit : E → J → E × Answer (Except Error V)) (settings : CacheSettings)
    (world : E) {doings : List (Doing V J α E)} (late : Late doings) {before : List (Doing V J α E)}
    (is : before <+: doings) :
    let c := after submit settings world before
    let c' := after submit settings world (uncancelled before)
    c.pool.state = c'.pool.state ∧ c.fetches = c'.fetches ∧ c.calls = c'.calls ∧
      c.pool.world = c'.pool.world ∧
      ∀ reader, .cancel reader ∉ before → c.result? reader = c'.result? reader := by
  intro c c'
  have parted : Parted c c' before := parted (late.of_part is)
  refine ⟨?_, parted.fetches_eq, parted.calls, ?_, fun reader others => ?_⟩
  · rw [parted.pool]
    rfl
  · rw [parted.pool]
    rfl
  · have kept : gone before (Nat.repr reader) = false :=
      Bool.eq_false_iff.mpr fun absent => others (gone_repr.mp absent)
    rw [result?, parted.pool, Pool.result?_without kept, result?]

end Crowd

/-! ### A reader that is cancelled -/

theorem late_concat {doings : List (Doing V J α E)} {d : Doing V J α E} (late : Late doings)
    (began : ∀ reader, d = .cancel reader → Began doings reader) : Late (doings ++ [d]) := by
  intro before reader part
  rcases List.prefix_concat_iff.mp part with same | part
  · obtain ⟨rfl, last⟩ := List.append_inj' same rfl
    exact began reader (List.cons.inj last).1.symm
  · exact late before reader part

theorem late_of_none {doings : List (Doing V J α E)} (others : ∀ d ∈ doings, d.isCancel = false) :
    Late doings := by
  rintro before reader ⟨rest, rfl⟩
  cases others _ (List.mem_append_left _ (List.mem_append_right _ (List.mem_singleton_self _)))

theorem late_append {doings rest : List (Doing V J α E)} (late : Late doings)
    (others : ∀ d ∈ rest, d.isCancel = false) : Late (doings ++ rest) := by
  induction rest using List.reverseRecOn with
  | nil => exact (List.append_nil doings).symm ▸ late
  | append_singleton rest d ih =>
    rw [← List.append_assoc]
    refine late_concat (ih fun d member => others d (List.mem_append_left _ member)) ?_
    rintro reader rfl
    cases others _ (List.mem_append_right _ (List.mem_singleton_self _))

/-- A reader starts a fetch. -/
def starting : List (Doing Nat Unit Nat Unit) :=
  [.come .tables .cached () some, .attend 0 1, .further 0 0]

/-- The fetch ends, and another reader comes. -/
def ending : List (Doing Nat Unit Nat Unit) :=
  [.release "late", .further 0 1, .come .tables .cached () some, .attend 1 1]

def quitted (doings : List (Doing Nat Unit Nat Unit)) : Crowd Nat Unit Nat Unit :=
  .after (fun _ _ => ((), .behind "late" (.ok 7))) ⟨1000, 1000, 0, 0⟩ () doings

/-- The only reader of a fetch is cancelled. What the fetch brings is recorded all the same and served to
the reader who comes behind. -/
theorem quitted_recorded :
    Late (starting ++ [.cancel 0] ++ ending) ∧
      (quitted (starting ++ [.cancel 0])).pool.names = [""] ∧
      (quitted (starting ++ [.cancel 0] ++ ending)).pool.state.1.peek? .tables = some 7 ∧
      (quitted (starting ++ [.cancel 0] ++ ending)).pool.state =
        (quitted (starting ++ ending)).pool.state ∧
      ((quitted (starting ++ [.cancel 0] ++ ending)).result? 1).any (·.toOption == some 7) := by
  have began : Began starting 0 :=
    ⟨[.come .tables .cached () some], 1, ⟨[.further 0 0], rfl⟩, Nat.one_pos, by decide⟩
  have late : Late (starting ++ [.cancel 0] ++ ending) := by
    refine late_append (late_concat (late_of_none ?_) ?_) ?_
    · simp [starting, Doing.isCancel]
    · rintro reader same
      cases same
      exact began
    · simp [ending, Doing.isCancel]
  have same := (Crowd.cancelled_unnoticed (fun _ _ => ((), .behind "late" (.ok 7))) ⟨1000, 1000, 0, 0⟩ ()
    late List.prefix_rfl).1
  exact ⟨late, by decide +kernel, by decide +kernel, same, by decide +kernel⟩

end DbConsole.Cache

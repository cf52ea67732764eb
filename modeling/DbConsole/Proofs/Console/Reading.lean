import DbConsole.Proofs.Cache.Since
import DbConsole.Proofs.Console.Conduct
import DbConsole.Proofs.Task.Discipline
import DbConsole.Proofs.Task.Left
import Mathlib
import Std.Data.String.ToNat

/-!
The turn in which a change marks what it has touched, and reads behind it. A change that has succeeded has
had such a turn; its response had been received by then, and behind it nothing that the plan covers can be
served or joined. From such a point on the promise about a key is that what is returned was answered to a
request behind that point; it is kept by the operations of the store and by the fetches behind them, and a
read that is started under it returns what was promised.
-/
set_option autoImplicit false

namespace DbConsole.Console

variable {α : Type} {plan : Plan} {ok : α → Prop}

theorem Prepares.advanceBy {t : ConsoleTask α} (prepares : Prepares plan ok t) (steps : Nat)
    (c : Console) : Prepares plan ok (t.advanceBy steps c).2 :=
  Task.advanceBy_keeps (fun _ t => Prepares plan ok t)
    (fun c _ _ prepares => prepares c) (fun _ _ _ prepares => prepares) prepares steps

theorem Civil.advanceBy {t : ConsoleTask α} (civil : Civil t) (steps : Nat) (c : Console) :
    Civil (t.advanceBy steps c).2 :=
  Task.advanceBy_keeps (fun _ t => Civil t)
    (fun c _ _ civil => civil.2 c) (fun _ _ _ civil => civil) civil steps

/-- A run of steps either comes before the marking or ends with it. -/
theorem Seals.advanceBy {t : ConsoleTask α} (seals : Seals plan ok t) (civil : Civil t)
    {c : Console} {started : Set (Flight Unit)} (ledger : c.cache.Ledger started) (steps : Nat) :
    Seals plan ok (t.advanceBy steps c).2 ∨
      ∃ before : Cache Payload Unit, ∃ started', before.Ledger started' ∧
        (t.advanceBy steps c).1.cache = before.apply plan := by
  let marked (c : Console) : Prop := ∃ before : Cache Payload Unit, ∃ started',
    before.Ledger started' ∧ c.cache = before.apply plan
  have kept := Task.advanceBy_keeps
    (fun c t => (Seals plan ok t ∧ Civil t ∧ ∃ started, c.cache.Ledger started) ∨
      ((∃ a, t = .done a) ∧ marked c)) ?_ ?_ (Or.inl ⟨seals, civil, started, ledger⟩) steps
  · exact kept.imp And.left And.right
  · rintro c update next (⟨further | ⟨marks, ends⟩, civil, started, ledger⟩ | ⟨⟨_, same⟩, _⟩)
    · obtain ⟨e, apart, same⟩ := civil.1 c
      obtain ⟨started', _, ledger', _⟩ := ledger.event e apart
      exact Or.inl ⟨further c, civil.2 c, started', same ▸ ledger'⟩
    · exact Or.inr ⟨ends c, c.cache, started, ledger, marks c⟩
    · cases same
  · rintro c ready next (⟨seals, civil, ledger⟩ | ⟨⟨_, same⟩, _⟩)
    · exact Or.inl ⟨seals, civil, ledger⟩
    · cases same

/-- The change has yet to mark what the plan covers, or has failed. -/
structure Pending (plan : Plan) (t : ConsoleTask (Option (Except Error Returned))) : Prop where
  civil : Civil t
  unsealed : Prepares plan Returns t ∨ Seals plan Returns t

namespace Pending

variable {t : ConsoleTask (Option (Except Error Returned))}

theorem not_returns {outcome : Option (Except Error Returned)}
    (pending : Pending plan (.done outcome)) : ¬ Returns outcome := by
  rcases pending.unsealed with prepares | seals
  · exact prepares
  · exact seals

theorem call {question : Console → Request}
    {next : Reply → ConsoleTask (Option (Except Error Returned))}
    (pending : Pending plan (.call question next)) (reply : Reply) : Pending plan (next reply) := by
  refine ⟨pending.civil reply, Or.inr ?_⟩
  rcases pending.unsealed with prepares | seals
  · exact prepares reply
  · exact seals.elim

theorem advanceBy (pending : Pending plan t) {c : Console} {started : Set (Flight Unit)}
    (ledger : c.cache.Ledger started) (steps : Nat) :
    Pending plan (t.advanceBy steps c).2 ∨
      (Silent t ∧ ∃ before : Cache Payload Unit, ∃ started', before.Ledger started' ∧
        (t.advanceBy steps c).1.cache = before.apply plan) := by
  have civil := pending.civil.advanceBy steps c
  rcases pending.unsealed with prepares | seals
  · exact Or.inl ⟨civil, Or.inl (prepares.advanceBy steps c)⟩
  · rcases seals.advanceBy pending.civil ledger steps with further | marked
    · exact Or.inl ⟨civil, Or.inr further⟩
    · exact Or.inr ⟨seals.silent, marked⟩

end Pending

/-- Nothing of the key can be served or joined. -/
def Forgotten (key : Key) (c : Cache Payload Unit) : Prop :=
  c.trusted? key = none ∧ c.underway? key = none

theorem forgotten_apply {key : Key} {c : Cache Payload Unit} {started : Set (Flight Unit)}
    (ledger : c.Ledger started) (covered : plan.covers key) : Forgotten key (c.apply plan) := by
  have marked : Cache.isCovered plan.filters key = true := covered
  refine ⟨?_, ?_⟩
  · rw [Cache.apply, Cache.trusted?_invalidate, if_pos marked]
  · rw [Cache.apply, ledger.underway?_invalidate, if_pos marked]

namespace Interleaving

variable {E : Type} (r : Interleaving E)

/-- What is left of each operation has a property if each starts with it and no turn takes it
away. -/
theorem allLeft_succ {holds : String → ConsoleTask (Option (Except Error Returned)) → Prop}
    (n : Nat) (all : (r.pool n).AllLeft holds)
    (starts : ∀ operation, r.move n = .start operation → holds n.repr operation.task)
    (turns : ∀ place steps through, r.move n = .turn place steps through →
      ∀ name t, (r.pool n).threads[place]? = some (name, .ready t) →
        holds name (t.advanceBy steps (r.pool n).state).2)
    (started : ∀ c, ∀ t ∈ ((systemBefore r.submit (Except Error Returned)).started c).1, holds "" t)
    (called : ∀ name question next a, holds name (.call question next) → holds name (next a))
    (slept : ∀ name time next, holds name (.sleep time next) → holds name next) :
    (r.pool (n + 1)).AllLeft holds := by
  rw [pool_succ]
  cases moves : r.move n with
  | start operation => exact all.spawn _ _ (starts operation moves)
  | turn place steps through =>
    exact all.turn place steps through (turns place steps through moves) started called slept
  | release gate => exact all.release gate
  | wake time => exact all.wake time
  | cancel name => exact all.cancel name
  | tidy => exact all.tidy
  | collect now => exact all
  | clear => exact all
  | drift change => exact all
  | outside change => exact all

/-- The operation of the name is a change that has yet to mark what the plan covers. -/
def Unsealed (plan : Plan) (name : String) (p : Operations E) : Prop :=
  p.AllLeft fun other t => other = name → Pending plan t

theorem not_unsealed_of_returned {plan : Plan} {name : String} {p : Operations E}
    {returned : Returned} (result : p.result? name = some (.ok returned)) :
    ¬ Unsealed plan name p := fun unsealed =>
  (unsealed name _ (Pool.mem_of_result? result) rfl).not_returns ⟨returned, rfl⟩

/-- The state behind a turn is where its task has got to, with the departures taken up. -/
theorem cache_turn {p : Operations E} {place steps : Nat} {through : Bool} {name : String}
    {t : ConsoleTask (Option (Except Error Returned))}
    (found : p.threads[place]? = some (name, .ready t)) :
    (p.turn (systemBefore r.submit _) place steps through).state.cache =
      (t.advanceBy steps p.state).1.cache.takeDepartures.2 := by
  simp only [Pool.turn, found]
  cases through with
  | false => rfl
  | true =>
    rw [if_pos rfl, Pool.setThread, Pool.state_suspend]
    rfl

/-- The turn in which an operation is sealed. -/
theorem sealing_turn {started n : Nat} {change : Change}
    (starts : r.move started = .start (.change change))
    {flights : Set (Flight Unit)} (ledger : (r.pool n).state.cache.Ledger flights)
    (before : Unsealed change.plan started.repr (r.pool n))
    (after : ¬ Unsealed change.plan started.repr (r.pool (n + 1))) :
    (∃ t, (started.repr, .ready t) ∈ (r.pool n).threads ∧ Silent t) ∧
      ∀ key, change.plan.covers key → Forgotten key (r.pool (n + 1)).state.cache := by
  obtain ⟨place, steps, through, moves, name, t, found, opened⟩ :
      ∃ place steps through, r.move n = .turn place steps through ∧
        ∃ name t, (r.pool n).threads[place]? = some (name, .ready t) ∧
          ¬ (name = started.repr →
            Pending change.plan (t.advanceBy steps (r.pool n).state).2) := by
    by_contra none
    refine after (r.allLeft_succ n before ?_ ?_ ?_ ?_ ?_)
    · intro operation moves same
      cases Nat.repr_injective same
      rw [starts] at moves
      cases moves
      exact ⟨change.orderly.1, Or.inl change.orderly.2⟩
    · intro place steps through moves name t found
      by_contra opened
      exact none ⟨place, steps, through, moves, name, t, found, opened⟩
    · exact fun c t _ same => absurd same.symm Nat.repr_ne_empty
    · exact fun name question next reply left same => (left same).call reply
    · exact fun name time next left same => ⟨(left same).civil, (left same).unsealed⟩
  obtain ⟨rfl, passed⟩ := Classical.not_imp.mp opened
  have member := List.mem_of_getElem? found
  have pending : Pending change.plan t := before _ _ member rfl
  rcases pending.advanceBy ledger steps with further | ⟨silent, _, _, ledger', same⟩
  · exact absurd further passed
  · refine ⟨⟨t, member, silent⟩, fun key covered => ?_⟩
    rw [pool_succ, moves, Move.apply, r.cache_turn found, same]
    exact forgotten_apply ledger' covered

end Interleaving

end DbConsole.Console

namespace DbConsole.Console

/-! ### Keeping a promise -/

/-- What is answered to a request for the key is good, and stays so. -/
structure Heeds (key : Key) (good : Set (Request × Reply) → Payload → Prop) : Prop where
  mono : ∀ heard heard' v, heard ⊆ heard' → good heard v → good heard' v
  hears : ∀ heard request reply v, Gives key request reply v →
    good (insert (request, reply) heard) v

variable {key : Key} {least : Nat} {good : Set (Request × Reply) → Payload → Prop}

/-- The promise about a key, in a console. -/
def Promised (key : Key) (least : Nat) (good : Set (Request × Reply) → Payload → Prop)
    (g : Set (Flight Unit)) (heard : Set (Request × Reply)) (c : Console) : Prop :=
  c.cache.Promise g key least (good heard)

/-- The task is one of an operation or of a fetch. -/
def Behaves {α : Type} (key : Key) (least : Nat) (good : Set (Request × Reply) → Payload → Prop)
    (g : Set (Flight Unit)) (heard : Set (Request × Reply)) (t : ConsoleTask α) : Prop :=
  Civil t ∨
    ∃ f ∈ g, Flies f whatever t fun v => f.key = key → least ≤ f.id → good heard v

namespace Behaves

variable {α : Type} {g g' : Set (Flight Unit)} {heard heard' : Set (Request × Reply)}

theorem whatever_mono (good good' : Payload → Prop) (a : α) (_ : ∀ v, good v → good' v)
    (_ : whatever good a) : whatever good' a :=
  trivial

theorem mono (heeds : Heeds key good) {t : ConsoleTask α}
    (behaves : Behaves key least good g heard t) (more : g ⊆ g') (later : heard ⊆ heard') :
    Behaves key least good g' heard' t := by
  rcases behaves with civil | ⟨f, member, flies⟩
  · exact Or.inl civil
  · refine Or.inr ⟨f, more member, flies.mono whatever_mono fun v held same least => ?_⟩
    exact heeds.mono heard heard' v later (held same least)

/-- A fetch whose number is too low for the promise brings it nothing. -/
theorem of_below {good' : Set (Request × Reply) → Payload → Prop} {least' : Nat}
    {t : ConsoleTask α} (behaves : Behaves key least' good' g heard t)
    (below : ∀ f ∈ g, f.id < least) : Behaves key least good g heard' t := by
  rcases behaves with civil | ⟨f, member, flies⟩
  · exact Or.inl civil
  · refine Or.inr ⟨f, member, flies.mono whatever_mono fun v _ _ later => ?_⟩
    exact absurd later (Nat.not_le.mpr (below f member))

theorem act {update : Console → Console} {next : Console → ConsoleTask α} {c : Console}
    (behaves : Behaves key least good g heard (.act update next))
    (promised : Promised key least good g heard c) :
    ∃ g', g ⊆ g' ∧ Promised key least good g' heard (update c) ∧
      Behaves key least good g' heard (next c) := by
  unfold Promised
  rcases behaves with civil | ⟨f, member, flies⟩
  · obtain ⟨e, apart, same⟩ := civil.1 c
    obtain ⟨g', more, promised'⟩ := promised.event e apart
    rw [same]
    exact ⟨g', more, promised', Or.inl (civil.2 c)⟩
  · obtain ⟨now, outcome, brings, same⟩ := flies.1 c
    rw [same]
    refine ⟨g, le_rfl, ?_, Or.inr ⟨f, member, flies.2 c⟩⟩
    exact promised.land now f member outcome fun same later v ok => brings v ok same later

theorem call (heeds : Heeds key good) {question : Console → Request}
    {next : Reply → ConsoleTask α} (behaves : Behaves key least good g heard (.call question next))
    (c : Console) (reply : Reply) :
    Behaves key least good g (insert (question c, reply) heard) (next reply) := by
  rcases behaves with civil | ⟨f, member, answer, asks, further⟩
  · exact Or.inl (civil reply)
  · refine Or.inr ⟨f, member, (further reply).mono whatever_mono fun v held same later => ?_⟩
    rcases held with before | answered
    · exact heeds.mono _ _ v (Set.subset_insert _ _) (before same later)
    · exact heeds.hears heard _ _ v ⟨c, question, answer, same ▸ asks, rfl, answered⟩

end Behaves

/-- All tasks behave, except that the reader, if there is one, meets what is asked of it. -/
def promising {E R : Type} (submit : E → Request → E × Answer Reply) (heeds : Heeds key good)
    (least : Nat) (reader : Option String) (named : reader ≠ some "")
    (post : Set (Flight Unit) → Set (Request × Reply) → Option R → Prop)
    (lasting : Task.Lasting post) :
    Discipline (systemBefore submit R) (Set (Flight Unit)) where
  state := Promised key least good
  task g heard name t :=
    (reader = some name → t.Meets (Promised key least good) post g heard) ∧
      (reader ≠ some name → Behaves key least good g heard t)
  state_mono g heard heard' c later promised :=
    promised.mono fun v => heeds.mono heard heard' v later
  task_mono g g' heard heard' name t more later kind :=
    ⟨fun mine => (kind.1 mine).mono lasting more later,
      fun apart => (kind.2 apart).mono heeds more later⟩
  act g heard c name update next promised kind := by
    by_cases mine : reader = some name
    · obtain ⟨g', more, promised', meets⟩ := kind.1 mine g heard c le_rfl subset_rfl promised
      exact ⟨g', more, promised', fun _ => meets, fun apart => absurd mine apart⟩
    · obtain ⟨g', more, promised', behaves⟩ := (kind.2 mine).act promised
      exact ⟨g', more, promised', fun same => absurd same mine, fun _ => behaves⟩
  wait g heard name ready next kind := kind
  sleep g heard name time next kind := kind
  call g heard c name question next reply promised kind :=
    ⟨fun mine => kind.1 mine g heard c reply le_rfl subset_rfl promised,
      fun apart => (kind.2 apart).call heeds c reply⟩
  started g heard c promised := by
    refine ⟨promised.takeDepartures, fun t among => ⟨fun mine => absurd mine named, fun _ => ?_⟩⟩
    obtain ⟨f, departs, _, rfl⟩ := exists_flying_of_started among
    exact Or.inr ⟨f, promised.ledger.known f departs, Flies.fly _ f _⟩

/-- A promise outlasts whatever happens in a history, if the tasks that begin are civil and the reader
meets what is asked of it, and if what changes by itself brings nothing to the cache. -/
theorem promising_succ {E R : Type} {submit : E → Request → E × Answer Reply} {heeds : Heeds key good}
    {reader : Option String} {named : reader ≠ some ""}
    {post : Set (Flight Unit) → Set (Request × Reply) → Option R → Prop}
    {lasting : Task.Lasting post} {h : History (systemBefore submit R)} {n : Nat}
    {g : Set (Flight Unit)} {heard : Set (Request × Reply)}
    (kept : (promising submit heeds least reader named post lasting).Kept g heard (h.pool n))
    (begins : ∀ t, h.happens n = .begin t → Civil t ∧ (reader = some n.repr →
      ∀ g heard, t.Meets (Promised key least good) post g heard))
    (drifts : ∀ f, h.happens n = .drift f → ∃ e : Cache.Event Payload Unit, e.lands = false ∧
      (f (h.state n)).cache = e.apply (h.state n).cache) :
    ∃ g', g ≤ g' ∧ (promising submit heeds least reader named post lasting).Kept g'
      (heard ∪ {x | h.exchange? n = some x}) (h.pool (n + 1)) := by
  refine History.kept_succ kept (fun t begun => ?_) fun f drift => ?_
  · obtain ⟨civil, reads⟩ := begins t begun
    exact ⟨fun mine => reads mine g heard, fun _ => Or.inl civil⟩
  · obtain ⟨e, quiet, same⟩ := drifts f drift
    obtain ⟨g', more, promised⟩ := Cache.Promise.event kept.state e quiet
    refine ⟨g', more, ?_⟩
    change Cache.Promise (f (h.state n)).cache g' key least (good heard)
    rw [same]
    exact promised

/-! ### Reading under a promise -/

variable {α : Type}

/-- What has begun as a reading can only end well: the value is good, or the fetch is a late one. -/
def Awaits (key : Key) (least : Nat) (good : Set (Request × Reply) → Payload → Prop)
    (g : Set (Flight Unit)) (heard : Set (Request × Reply)) : Reading Payload → Prop
  | .served v => good heard v
  | .awaiting id => ∃ f ∈ g, f.id = id ∧ f.key = key ∧ least ≤ id

/-- A success shows a good payload of the key. -/
def Shown (good : Set (Request × Reply) → Payload → Prop) (shows : Payload → α → Prop)
    (heard : Set (Request × Reply)) (outcome : Except Error α) : Prop :=
  ∀ a, outcome = .ok a → ∃ v, shows v a ∧ good heard v

/-- Only a late fetch can be joined. -/
theorem Awaits.of_underway {c : Cache Payload Unit} {g : Set (Flight Unit)}
    {heard : Set (Request × Reply)} {id : Nat} (promise : c.Promise g key least (good heard))
    (joined : c.underway? key = some id) : Awaits key least good g heard (.awaiting id) := by
  obtain ⟨_, f, member, sameId, sameKey⟩ := promise.ledger.underway key id joined
  exact ⟨f, member, sameId, sameKey, promise.trusts.flight id joined⟩

theorem Awaits.lasting (heeds : Heeds key good) (k : Key) :
    Task.Lasting fun g heard reading => k = key → Awaits key least good g heard reading := by
  intro g g' heard heard' reading more later awaits same
  cases reading with
  | served v => exact heeds.mono heard heard' v later (awaits same)
  | awaiting id =>
    obtain ⟨f, member, facts⟩ := awaits same
    exact ⟨f, more member, facts⟩

theorem meets_startRead (k : Key) (policy : FetchPolicy) (g : Set (Flight Unit))
    (heard : Set (Request × Reply)) :
    (Cache.startRead k policy () : ConsoleTask (Reading Payload)).Meets (Promised key least good)
      (fun g heard reading => k = key → Awaits key least good g heard reading) g heard := by
  intro g' heard' c _ _ promised
  obtain ⟨g'', more, promised'⟩ := promised.event (.read c.now k policy ()) rfl
  refine ⟨g'', more, promised', ?_⟩
  rintro rfl
  change Awaits k least good g'' heard' (c.cache.read c.now k policy ()).2
  cases reading : (c.cache.read c.now k policy ()).2 with
  | served v =>
    exact promised.trusts.value v
      (Cache.trusted?_of_served c.cache c.now k policy () v reading).2
  | awaiting id =>
    exact .of_underway promised' (Cache.underway?_of_awaiting c.cache c.now k policy () id reading)

theorem shown_error {shows : Payload → α → Prop} (heard : Set (Request × Reply)) (e : Error) :
    Shown good shows heard (.error e) :=
  fun _ same => by cases same

theorem getD_eq_ok {x : Option (Except Error α)} {e : Error} {a : α}
    (come : x.getD (.error e) = .ok a) : x = some (.ok a) := by
  cases x with
  | none => cases come
  | some outcome => exact congrArg some come

/-- What has come of a reading is good. -/
theorem exists_good_of_outcome? {k : Key} {cast : Payload → Option α} {reading : Reading Payload}
    {g : Set (Flight Unit)} {heard : Set (Request × Reply)} {c : Console}
    (promised : Promised key least good g heard c) (awaits : Awaits key least good g heard reading)
    {a : α} (come : Cache.outcome? k cast reading c = some (.ok a)) :
    ∃ v, cast v = some a ∧ good heard v := by
  cases reading with
  | served v => exact ⟨v, Cache.ofKind_eq_ok (Option.some.inj come), awaits⟩
  | awaiting id =>
    obtain ⟨f, member, rfl, sameKey, later⟩ := awaits
    obtain ⟨brought, landed, ended⟩ := Option.map_eq_some_iff.mp come
    cases brought with
    | error e => cases ended
    | ok v => exact ⟨v, Cache.ofKind_eq_ok ended, promised.brings f member sameKey later v landed⟩

theorem meets_fetch (heeds : Heeds key good) (k : Key) (policy : FetchPolicy)
    (cast : Payload → Option α) (g : Set (Flight Unit)) (heard : Set (Request × Reply)) :
    (Cache.fetch k policy () cast : ConsoleTask (Except Error α)).Meets (Promised key least good)
      (fun _ heard outcome => k = key → Shown good (fun v a => cast v = some a) heard outcome)
      g heard := by
  refine (meets_startRead k policy g heard).bind fun g' heard' reading _ _ awaits => ?_
  cases reading with
  | served v => exact fun same a ok => ⟨v, Cache.ofKind_eq_ok ok, awaits same⟩
  | awaiting id =>
    refine .until? fun g'' heard'' c more later promised same a come => ?_
    exact exists_good_of_outcome? promised
      (Awaits.lasting heeds k g' g'' heard' heard'' _ more later awaits same) (getD_eq_ok come)

/-- A read of the store returns what was promised of its key. -/
def Answers (key : Key) (good : Set (Request × Reply) → Payload → Prop) (read : Read)
    (_ : Set (Flight Unit)) (heard : Set (Request × Reply))
    (r : Option (Except Error Returned)) : Prop :=
  ∀ returned, r = some (.ok returned) → ∃ v, read.Shows key v returned ∧ good heard v

theorem Answers.lasting (heeds : Heeds key good) (read : Read) :
    Task.Lasting (Answers key good read) := by
  rintro g g' heard heard' r _ later answers returned same
  obtain ⟨v, shows, held⟩ := answers returned same
  exact ⟨v, shows, heeds.mono heard heard' v later held⟩

/-- What a read is wrapped in keeps what it shows. -/
theorem meets_returning {wrap : α → Returned} {read : Read} {t : ConsoleTask (Except Error α)}
    {shows : Payload → α → Prop} {g : Set (Flight Unit)} {heard : Set (Request × Reply)}
    (meets : t.Meets (Promised key least good)
      (fun _ heard outcome => Shown good shows heard outcome) g heard)
    (keeps : ∀ v a, shows v a → read.Shows key v (wrap a)) :
    (returning wrap t).Meets (Promised key least good) (Answers key good read) g heard := by
  refine meets.bind fun g' heard' outcome _ _ shown returned same => ?_
  cases outcome with
  | error e => cases same
  | ok a =>
    cases same
    obtain ⟨v, shows, held⟩ := shown a rfl
    exact ⟨v, keeps v a shows, held⟩

/-- A read of one key, whose payloads are of one kind. -/
theorem meets_one (heeds : Heeds key good) (policy : FetchPolicy) {cast : Payload → Option α}
    {wrap : α → Payload} (casts : ∀ v a, cast v = some a → v = wrap a) (g : Set (Flight Unit))
    (heard : Set (Request × Reply)) :
    (returning (.payload ∘ wrap) (Cache.fetch key policy () cast)).Meets
      (Promised key least good) (Answers key good (.one key policy)) g heard := by
  refine meets_returning ((meets_fetch heeds key policy cast g heard).imp
    fun _ _ _ shown => shown rfl) fun v a same => ?_
  rw [casts v a same]
  rfl

theorem columns?_eq_some (v : Payload) (cs : List Column) (same : v.columns? = some cs) :
    v = .columns cs := by
  cases v <;> cases same
  rfl

theorem indexes?_eq_some (v : Payload) (is : List Index) (same : v.indexes? = some is) :
    v = .indexes is := by
  cases v <;> cases same
  rfl

theorem foreignKeys?_eq_some (v : Payload) (fs : List ForeignKey)
    (same : v.foreignKeys? = some fs) : v = .foreignKeys fs := by
  cases v <;> cases same
  rfl

theorem both?_eq_ok {β : Type} {x : Option (Except Error α)} {y : Option (Except Error β)} {a : α}
    {b : β} (come : Cache.both? x y = some (.ok (a, b))) : x = some (.ok a) ∧ y = some (.ok b) := by
  unfold Cache.both? at come
  split at come <;> cases come
  exact ⟨rfl, rfl⟩

theorem meets_tableSchema (heeds : Heeds key good) (table : String) (policy : FetchPolicy)
    (reads : (Read.tableSchema table policy).Reads key) (g : Set (Flight Unit))
    (heard : Set (Request × Reply)) :
    (tableSchema table policy).Meets (Promised key least good)
      (fun _ heard outcome => Shown good (fun v s =>
        (Read.tableSchema table policy).Shows key v (.tableSchema s.1 s.2.1 s.2.2)) heard outcome)
      g heard := by
  refine (meets_startRead _ policy g heard).bind fun g₁ heard₁ columns _ _ forColumns => ?_
  refine (meets_startRead _ policy g₁ heard₁).bind fun g₂ heard₂ indexes more later forIndexes => ?_
  refine (meets_startRead _ policy g₂ heard₂).bind
    fun g₃ heard₃ foreignKeys more' later' forForeignKeys => ?_
  refine .until? fun g' heard' c more'' later'' promised => ?_
  rintro ⟨cs, is, fs⟩ come
  obtain ⟨ofColumns, rest⟩ := both?_eq_ok (getD_eq_ok come)
  obtain ⟨ofIndexes, ofForeignKeys⟩ := both?_eq_ok rest
  obtain rfl | rfl | rfl :
      key = .columns table ∨ key = .indexes table ∨ key = .foreignKeys table := by
    simpa [Read.Reads] using reads
  · have awaits := Awaits.lasting heeds _ g₁ g' heard₁ heard' _ (more.trans (more'.trans more''))
      (later.trans (later'.trans later'')) forColumns rfl
    obtain ⟨v, cast, held⟩ := exists_good_of_outcome? promised awaits ofColumns
    exact ⟨v, ⟨fun _ => columns?_eq_some v cs cast, nofun, nofun⟩, held⟩
  · have awaits := Awaits.lasting heeds _ g₂ g' heard₂ heard' _ (more'.trans more'')
      (later'.trans later'') forIndexes rfl
    obtain ⟨v, cast, held⟩ := exists_good_of_outcome? promised awaits ofIndexes
    exact ⟨v, ⟨nofun, fun _ => indexes?_eq_some v is cast, nofun⟩, held⟩
  · have awaits := Awaits.lasting heeds _ g₃ g' heard₃ heard' _ more'' later'' forForeignKeys rfl
    obtain ⟨v, cast, held⟩ := exists_good_of_outcome? promised awaits ofForeignKeys
    exact ⟨v, ⟨nofun, nofun, fun _ => foreignKeys?_eq_some v fs cast⟩, held⟩

theorem meets_read (heeds : Heeds key good) (read : Read) (reads : read.Reads key)
    (g : Set (Flight Unit)) (heard : Set (Request × Reply)) :
    read.task.Meets (Promised key least good) (Answers key good read) g heard := by
  cases read with
  | one k policy =>
    cases reads
    cases key with
    | tables =>
      exact meets_one heeds policy (by rintro v a same; cases v <;> cases same; rfl) g heard
    | databaseInfo =>
      exact meets_one heeds policy (by rintro v a same; cases v <;> cases same; rfl) g heard
    | columns table => exact meets_one heeds policy columns?_eq_some g heard
    | indexes table => exact meets_one heeds policy indexes?_eq_some g heard
    | foreignKeys table => exact meets_one heeds policy foreignKeys?_eq_some g heard
    | rows table query =>
      change (returning (.payload ∘ .page) (rows table query policy)).Meets _ _ _ _
      unfold rows
      cases query.validate with
      | error e => exact fun _ same => by cases same
      | ok u =>
        exact meets_one heeds policy (by rintro v a same; cases v <;> cases same; rfl) g heard
  | tableSchema table policy =>
    exact meets_returning (meets_tableSchema heeds table policy reads g heard) fun _ _ => id
  | rowId table row =>
    cases reads
    have shown : (rowIdFor table row).Meets (Promised (.columns table) least good)
        (fun _ heard outcome => Shown good (fun v id =>
          (Read.rowId table row).Shows (.columns table) v (.rowId id)) heard outcome) g heard := by
      refine (meets_fetch heeds (.columns table) .cached Payload.columns? g heard).bind
        fun g' heard' outcome _ _ shown => ?_
      cases outcome with
      | error e => exact shown_error heard' e
      | ok cs =>
        rintro id same
        obtain ⟨v, cast, held⟩ := shown rfl cs rfl
        exact ⟨v, ⟨cs, columns?_eq_some v cs cast, same⟩, held⟩
    exact meets_returning shown fun _ _ => id

/-! ### From a point on at which nothing can be served or joined -/

/-- Some request for the key was answered with the payload. -/
def Answered (key : Key) (heard : Set (Request × Reply)) (v : Payload) : Prop :=
  ∃ x ∈ heard, Gives key x.1 x.2 v

theorem heeds_answered (key : Key) : Heeds key (Answered key) where
  mono _ _ _ later := fun ⟨x, member, gives⟩ => ⟨x, later member, gives⟩
  hears _ request reply _ gives := ⟨(request, reply), Set.mem_insert _ _, gives⟩

theorem heeds_anything (key : Key) : Heeds key fun _ _ => True where
  mono _ _ _ _ := id
  hears _ _ _ _ _ := trivial

variable {E : Type} (submit : E → Request → E × Answer Reply)

/-- What every pool of operations keeps to, which promises nothing. -/
def baseline (key : Key) :
    Discipline (systemBefore submit (Except Error Returned)) (Set (Flight Unit)) :=
  promising submit (heeds_anything key) 1 none nofun (fun _ _ _ => True) fun _ _ _ _ _ _ _ => id

/-- What is kept to so that the reader returns only what is answered from now on. -/
def assuring (key : Key) (least reader : Nat) (read : Read) :
    Discipline (systemBefore submit (Except Error Returned)) (Set (Flight Unit)) :=
  promising submit (heeds_answered key) least (some reader.repr)
    (fun same => Nat.repr_ne_empty (Option.some.inj same)) (Answers key (Answered key) read)
    (Answers.lasting (heeds_answered key) read)

variable {submit} {reader : Nat} {g : Set (Flight Unit)}
  {heard : Set (Request × Reply)} {p : Operations E}

/-- Where nothing of a key can be served or joined, a promise about it begins. -/
theorem assured_of_forgotten (read : Read) (kept : (baseline submit key).Kept g heard p)
    (forgotten : Forgotten key p.state.cache)
    (absent : p.AllLeft fun name _ => name ≠ reader.repr) :
    (assuring submit key p.state.cache.nextFlight reader read).Kept g ∅ p where
  state := .of_none kept.state.ledger forgotten.1 forgotten.2
  tasks := by
    refine (kept.tasks.and absent).mono fun name t ⟨kind, apart⟩ =>
      ⟨fun mine => absurd (Option.some.inj mine).symm apart, fun _ => ?_⟩
    exact (kind.2 nofun).of_below kept.state.ledger.below

/-- What the reader has returned was answered to a request of those that are known. -/
theorem exists_answered_of_kept {least : Nat} {read : Read} {returned : Returned}
    (kept : (assuring submit key least reader read).Kept g heard p)
    (ended : p.result? reader.repr = some (.ok returned)) :
    ∃ v, read.Shows key v returned ∧ ∃ x ∈ heard, Gives key x.1 x.2 v :=
  (kept.tasks _ _ (Pool.mem_of_result? ended)).1 rfl returned rfl

end DbConsole.Console

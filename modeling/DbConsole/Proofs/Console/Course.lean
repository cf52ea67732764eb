import DbConsole.Console.Session
import DbConsole.Proofs.Console.Interleaving
import DbConsole.Proofs.Task.History

/-!
The whole console before any backend: the session is opened, checked and closed while the store
reads and changes, and others come in only where a task may have to wait. The name of an action is its
own, so only visits to it bring it further; whatever else happens leaves it where it is. And the requests
that the tasks send, whether or not they are ever answered: the fetches behind the cache ask for what
there is and change nothing.
-/
set_option autoImplicit false

namespace DbConsole.Console

/-- What can be done with the console. The session is opened and closed by itself, or so that what
was cached and selected in it is forgotten. -/
inductive Action where
  | start
  | checkStatus
  | connect (forgetting : Bool) (credentials : Credentials)
  | disconnect (forgetting : Bool)
  | operate (operation : Operation)
  | dropTable (table : String) (confirmed : Bool)
  | alterTable (table : String) (change : Alteration) (confirmed : Bool)
  | executeSql (request : SqlRequest) (confirmed : Bool)
  | selectedRows (policy : FetchPolicy)

/-- What is told of an outcome that has no result of the store. -/
def failure? {α : Type} : Except Error α → Option (Except Error Returned)
  | .ok _ => none
  | .error e => some (.error e)

/-- Goes on with nothing but the failure, if there is one. -/
def reporting {α : Type} (t : ConsoleTask (Except Error α)) :
    ConsoleTask (Option (Except Error Returned)) :=
  t.bind fun r => .done (failure? r)

def Action.task : Action → ConsoleTask (Option (Except Error Returned))
  | .start => Console.start.bind fun _ => .done none
  | .checkStatus => Console.checkStatus.bind fun _ => .done none
  | .connect true credentials => reporting (Console.connect credentials)
  | .connect false credentials => reporting (openSession credentials)
  | .disconnect true => reporting Console.disconnect
  | .disconnect false => reporting closeSession
  | .operate operation => operation.task
  | .dropTable table confirmed => returning .notice (Console.dropTable table confirmed)
  | .alterTable table change confirmed =>
    returning .receipt (Console.alterTable table change confirmed)
  | .executeSql request confirmed => returning .result (Console.executeSql request confirmed)
  | .selectedRows policy => reporting (Console.selectedRows policy)

/-- What happens next to the console. -/
inductive Happening (E : Type) where
  | begin (action : Action)
  | visit (place waits : Nat)
  | release (gate : String)
  | wake (time : Nat)
  | tidy
  | collect (now : Nat)
  | select (change : Workspace → Workspace)
  | elapse (now : Nat)
  /-- The outside changes by itself. -/
  | outside (change : E → E)

def Happening.apply {E : Type} (submit : E → Request → E × Answer Reply) (number : Nat) :
    Happening E → Operations E → Operations E
  | .begin action, p => p.spawn number.repr action.task
  | .visit place waits, p => p.visit (systemBefore submit _) place waits
  | .release gate, p => p.release gate
  | .wake time, p => p.wake time
  | .tidy, p => p.tidy
  | .collect now, p =>
    { p with state := { p.state with cache := p.state.cache.collect now } }
  | .select change, p => { p with state := p.state.onWorkspace change }
  | .elapse now, p => { p with state := { p.state with now := now } }
  | .outside change, p => { p with world := change p.world }

/-- What happens to the pool of tasks. -/
def Happening.event {E : Type} :
    Happening E → Pool.Event Console E Request Reply (Except Error Returned)
  | .begin action => .begin action.task
  | .visit place waits => .visit place waits
  | .release gate => .release gate
  | .wake time => .wake time
  | .tidy => .tidy
  | .collect now => .drift fun c => { c with cache := c.cache.collect now }
  | .select change => .drift (onWorkspace change)
  | .elapse now => .drift fun c => { c with now := now }
  | .outside change => .outside change

namespace Happening

variable {E : Type} (happening : Happening E)

theorem apply_event (submit : E → Request → E × Answer Reply) (number : Nat) (p : Operations E) :
    happening.event.apply (systemBefore submit _) number p = happening.apply submit number p := by
  cases happening <;> rfl

theorem exists_action_of_event {t : ConsoleTask (Option (Except Error Returned))}
    (begins : happening.event = .begin t) :
    ∃ action, happening = .begin action ∧ action.task = t := by
  cases happening <;> cases begins
  exact ⟨_, rfl, rfl⟩

theorem eq_visit_of_event {place waits : Nat} (visits : happening.event = .visit place waits) :
    happening = .visit place waits := by
  cases happening <;> cases visits
  rfl

end Happening

/-- A life of the console from its beginning, before a backend that answers as it likes. Each action
has the number of what began it for its name. -/
structure Course (E : Type) where
  submit : E → Request → E × Answer Reply
  base : Url
  timeout : Option Nat
  tokens : TokenStore
  settings : CacheSettings
  world : E
  happens : Nat → Happening E

namespace Course

variable {E : Type} (r : Course E)

/-- The console as it is created. -/
def created : Console where
  base := r.base
  timeout := r.timeout
  tokens := r.tokens
  cache := .empty r.settings
  session := .initial
  published := []
  probing := false
  workspace := .initial
  collecting := false
  now := 0

def pool : Nat → Operations E
  | 0 => .init r.created r.world
  | n + 1 => (r.happens n).apply r.submit n (pool n)

theorem pool_succ (n : Nat) : r.pool (n + 1) = (r.happens n).apply r.submit n (r.pool n) := rfl

def console (n : Nat) : Console :=
  (r.pool n).state

/-- What the store operation that was begun there has returned. -/
def returned? (begun n : Nat) : Option (Except Error Returned) :=
  (r.pool n).result? begun.repr

/-- The request that is sent at a point, with the reply to it. -/
def exchange? (n : Nat) : Option (Request × Reply) :=
  match r.happens n with
  | .visit place waits => (r.pool n).asked? (systemBefore r.submit _) place waits
  | _ => none

/-- What is left of the task of the name has a visit. -/
def Runs (n : Nat) (name : String) (t : ConsoleTask (Option (Except Error Returned))) : Prop :=
  ∃ place waits, r.happens n = .visit place waits ∧
    (r.pool n).threads[place]? = some (name, .ready t)

/-! ### Courses as histories -/

/-- The course as a history of its tasks. -/
def history : History (systemBefore r.submit (Except Error Returned)) where
  start := r.created
  world := r.world
  happens n := (r.happens n).event

variable {r} {n place waits : Nat} {name : String}
  {t : ConsoleTask (Option (Except Error Returned))}

theorem history_pool (n : Nat) : r.history.pool n = r.pool n := by
  induction n with
  | zero => rfl
  | succ n ih =>
    rw [History.pool_succ, ih]
    exact (r.happens n).apply_event r.submit n (r.pool n)

theorem history_state (n : Nat) : r.history.state n = r.console n :=
  congrArg Pool.state (history_pool n)

theorem exists_action_of_begin (begins : r.history.happens n = .begin t) :
    ∃ action, r.happens n = .begin action ∧ action.task = t :=
  (r.happens n).exists_action_of_event begins

theorem happens_of_visit (visits : r.history.happens n = .visit place waits) :
    r.happens n = .visit place waits :=
  (r.happens n).eq_visit_of_event visits

theorem history_exchange? (n : Nat) : r.history.exchange? n = r.exchange? n := by
  rw [History.exchange?, exchange?, history_pool, history]
  dsimp only
  cases r.happens n <;> rfl

theorem history_runs (runs : r.Runs n name t) : r.history.Runs n name t := by
  obtain ⟨place, waits, happens, found⟩ := runs
  exact ⟨place, waits, congrArg Happening.event happens, (history_pool n).symm ▸ found⟩

theorem lt_of_returned? {begun : Nat} {x : Except Error Returned}
    (returned : r.returned? begun n = some x) : begun < n := by
  rw [returned?, ← history_pool] at returned
  exact History.lt_of_result? returned

/-- What is left of each task, behind whatever happens: new tasks come by what is begun and by what
the console has had started, and old ones get less by visits alone. -/
theorem allLeft_succ {holds holds' : String → ConsoleTask (Option (Except Error Returned)) → Prop}
    (all : (r.pool n).AllLeft holds) (later : ∀ name t, holds name t → holds' name t)
    (begun : ∀ action, r.happens n = .begin action → holds' n.repr action.task)
    (visited : ∀ place waits name t, r.happens n = .visit place waits →
      (r.pool n).threads[place]? = some (name, .ready t) → holds name t →
      (t.advanceThrough waits (r.console n)).2.Resumes (fun question reply =>
        r.exchange? n = some (question (r.console (n + 1)), reply)) (holds' name))
    (started : ∀ c, ∀ t ∈ ((systemBefore r.submit (Except Error Returned)).started c).1,
      holds' "" t) :
    (r.pool (n + 1)).AllLeft holds' := by
  simp only [← history_pool, ← history_state, ← history_exchange?] at all visited ⊢
  refine History.allLeft_succ all later (fun t begins => ?_) ?_ started
  · obtain ⟨action, happens, rfl⟩ := exists_action_of_begin begins
    exact begun action happens
  · exact fun place waits name t visits => visited place waits name t (happens_of_visit visits)

/-! ### One action from its beginning to its end -/

variable {begun : Nat} {action : Action}

theorem history_happens (begins : r.happens begun = .begin action) :
    r.history.happens begun = .begin action.task :=
  congrArg Happening.event begins

theorem sole (begins : r.happens begun = .begin action) (lt : begun < n) :
    (r.pool n).Sole begun.repr := by
  rw [← history_pool]
  exact History.sole (history_happens begins) lt

/-- What is left of the action at each point, if each visit to it leaves what is expected at the
next point, and all else leaves true what is expected of it. -/
theorem tracked {expected : Nat → ConsoleTask (Option (Except Error Returned)) → Prop}
    (begins : r.happens begun = .begin action) (first : expected (begun + 1) action.task)
    (mine : ∀ n place waits t, begun < n → r.happens n = .visit place waits →
      (r.pool n).threads[place]? = some (begun.repr, .ready t) → expected n t →
      expected (n + 1) (t.advanceThrough waits (r.console n)).2)
    (others : ∀ n t, begun < n → (∀ t', ¬ r.Runs n begun.repr t') → expected n t →
      expected (n + 1) t)
    (called : ∀ n question next reply, expected n (.call question next) → expected n (next reply))
    (slept : ∀ n time next, expected n (.sleep time next) → expected n next) (lt : begun < n) :
    (r.pool n).AllLeft fun name t => name = begun.repr → expected n t := by
  rw [← history_pool]
  refine History.tracked expected (history_happens begins) first ?_ ?_ lt
  · intro n place waits t lt visits found held
    rw [history_pool] at found
    rw [history_state n]
    exact .of_holds (mine n place waits t lt (happens_of_visit visits) found held)
      (fun question next reply asks _ => called _ question next reply asks) (slept (n + 1))
  · exact fun n t lt none => others n t lt fun t' runs => none t' (history_runs runs)

end Course

end DbConsole.Console

namespace DbConsole

namespace Console

variable {α β : Type}

/-- All that the task sends asks for what there is. -/
def Inquires : ConsoleTask α → Prop
  | .done _ => True
  | .act _ next => ∀ c, Inquires (next c)
  | .wait _ next => Inquires next
  | .call question next => (∀ c, (question c).method = .get) ∧ ∀ reply, Inquires (next reply)
  | .sleep _ next => Inquires next

namespace Inquires

theorem bind {t : ConsoleTask α} {k : α → ConsoleTask β} (inquires : Inquires t)
    (rest : ∀ a, Inquires (k a)) : Inquires (t.bind k) := by
  induction t with
  | done a => exact rest a
  | act update next ih => exact fun c => ih c (inquires c)
  | wait ready next ih => exact ih inquires
  | call question next ih => exact ⟨inquires.1, fun reply => ih reply (inquires.2 reply)⟩
  | sleep time next ih => exact ih inquires

theorem advanceThrough {t : ConsoleTask α} (inquires : Inquires t) (waits : Nat) (c : Console) :
    Inquires (t.advanceThrough waits c).2 := by
  refine Task.advanceBy_keeps (fun _ t => Inquires t) ?_ ?_ inquires _
  · exact fun c _ _ inquires => inquires c
  · exact fun _ _ _ inquires => inquires

theorem send [Wire α] (endpoint : Endpoint) (body : Option Json) :
    Inquires (Console.send α .get endpoint body) :=
  ⟨fun _ => rfl, fun _ => trivial⟩

theorem get [Wire α] (endpoint : Except Error Endpoint) : Inquires (Console.get α endpoint) := by
  cases endpoint with
  | error e => trivial
  | ok endpoint => exact send endpoint none

theorem fetchPayload (key : Key) : Inquires (Console.fetchPayload key) := by
  cases key with
  | tables => exact (send _ _).bind fun _ => trivial
  | databaseInfo => exact (send _ _).bind fun _ => trivial
  | columns table => exact (get _).bind fun _ => trivial
  | indexes table => exact (get _).bind fun _ => trivial
  | foreignKeys table => exact (get _).bind fun _ => trivial
  | rows table query =>
    refine Inquires.bind ?_ fun _ => trivial
    unfold fetchPage
    cases query.validate with
    | error e => trivial
    | ok u => exact get _

theorem attempts {t : ConsoleTask (Except Error Payload)} (inquires : Inquires t)
    (delay left : Nat) : Inquires (Cache.attempts t delay left) := by
  induction left with
  | zero => exact inquires
  | succ left ih =>
    refine inquires.bind fun outcome => ?_
    cases outcome with
    | ok v => trivial
    | error e =>
      dsimp only
      split
      · exact ih
      · trivial

theorem fly {R : Type} (settings : CacheSettings) (f : Flight Unit) :
    Inquires (flying settings f : ConsoleTask (Option R)) := by
  refine Inquires.bind ?_ fun _ => trivial
  refine (attempts (fetchPayload f.key) _ _).bind fun outcome => ?_
  exact fun _ => trivial

end Inquires

namespace Course

variable {E : Type} {r : Course E} {n : Nat} {name : String} {request : Request}

/-- The request that is sent at a point, behind the name of the task that sends it. -/
def sent? (r : Course E) (n : Nat) : Option (String × Request) :=
  match r.happens n with
  | .visit place waits => (r.pool n).sends? (systemBefore r.submit _) place waits
  | _ => none

/-- Who sends something has a visit, and has got to it. -/
theorem exists_call_of_sent? (sent : r.sent? n = some (name, request)) :
    ∃ place waits t question next c, r.happens n = .visit place waits ∧
      (r.pool n).threads[place]? = some (name, .ready t) ∧
      (t.advanceThrough waits (r.console n)).2 = .call question next ∧ request = question c := by
  unfold sent? at sent
  cases happens : r.happens n with
  | visit place waits =>
    rw [happens] at sent
    obtain ⟨t, question, next, found, left, same⟩ := Pool.exists_call_of_sends? sent
    exact ⟨place, waits, t, question, next, _, rfl, found, left, same⟩
  | _ =>
    rw [happens] at sent
    cases sent

theorem exists_runs_of_sent? (sent : r.sent? n = some (name, request)) :
    ∃ t, r.Runs n name t := by
  obtain ⟨place, waits, t, _, _, _, happens, found, _⟩ := exists_call_of_sent? sent
  exact ⟨t, place, waits, happens, found⟩

/-- The tasks that nobody asks for are fetches, which change nothing. -/
theorem unnamed_inquires (n : Nat) :
    (r.pool n).AllLeft fun name t => name = "" → Inquires t := by
  induction n with
  | zero => exact .init _ _
  | succ n ih =>
    refine allLeft_succ ih (fun _ _ => id) ?_ ?_ ?_
    · exact fun _ _ unnamed => absurd unnamed Nat.repr_ne_empty
    · intro place waits name t _ _ inquires
      refine .of_holds (fun unnamed => (inquires unnamed).advanceThrough waits _) ?_ ?_
      · exact fun question next reply asks _ unnamed => (asks unnamed).2 reply
      · exact fun time next sleeps => sleeps
    · intro c t among _
      obtain ⟨f, _, _, rfl⟩ := exists_flying_of_started among
      exact .fly _ f

/-- A fetch never sends anything that changes what the backend holds. -/
theorem method_of_unnamed (sent : r.sent? n = some ("", request)) : request.method = .get := by
  obtain ⟨place, waits, t, question, next, c, _, found, left, same⟩ := exists_call_of_sent? sent
  have asks : Inquires (t.advanceThrough waits (r.console n)).2 :=
    (unnamed_inquires n "" _ (List.mem_of_getElem? found) rfl).advanceThrough waits _
  rw [left] at asks
  rw [same]
  exact asks.1 c

end Course

end Console

end DbConsole

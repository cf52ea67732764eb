import DbConsole.Proofs.Console.BatchSelection
import DbConsole.Proofs.Console.Marking
import DbConsole.Proofs.Console.ReadYourWrites
import DbConsole.Proofs.Console.Refusal
import DbConsole.Proofs.Console.StaleViews
import DbConsole.Proofs.Sql.Agreement

/-!
The selected table behind SQL that cannot be read. Nobody knows what it has done, so its success marks
all that is cached, and then the selection is checked against a list of the tables. Nothing that was
cached or on its way before can stand in for that list.
-/
set_option autoImplicit false

namespace DbConsole.Console

/-! ### What is left of the check -/

/-- Drops the selection of a table that is not listed. -/
def comparing (table : String) : Except Error (List Table) → ConsoleTask Unit
  | .error _ => .done ()
  | .ok ts =>
    if ts.any (·.name == table) then .done ()
    else Task.change (onWorkspace (·.tableDropped table))

/-- Checks what is selected. -/
def checking : Option String → ConsoleTask Unit
  | none => .done ()
  | some table => (tables .fresh).bind (comparing table)

theorem reconcile_eq : reconcile = (Task.look (·.workspace.table)).bind checking := by
  refine congrArg (Task.bind _) (funext fun selected => ?_)
  cases selected with
  | none => rfl
  | some table =>
    refine congrArg (Task.bind _) (funext fun outcome => ?_)
    cases outcome <;> rfl

/-- Waits for the fetch of the list, and ends with the outcome. -/
def awaiting (table : String) (flight : Nat) (x : Option Outcome) : ConsoleTask (Option Outcome) :=
  ((Cache.finishRead .tables Payload.tables? (.awaiting flight)).bind (comparing table)).bind
    fun _ => .done x

/-- Asks for the list, and ends with the outcome. -/
def listing (table : String) (x : Option Outcome) : ConsoleTask (Option Outcome) :=
  ((tables .fresh).bind (comparing table)).bind fun _ => .done x

/-- What is left of running SQL that cannot be read when its reply is there. -/
def answered : Except Error SqlResult → ConsoleTask (Option Outcome)
  | .error e => .done (some (.store (.error e)))
  | .ok result => (applyPlan (.ofScope .schema)).bind fun _ =>
      reconcile.bind fun _ => .done (some (.store (.ok (.result result))))

/-- Running SQL when the engine is known. -/
def submitting (request : SqlRequest) (confirmed : Bool) (engine : Option Engine) :
    ConsoleTask (Option Outcome) :=
  (executing request confirmed engine).bind fun r => .done (r.map .store)

theorem executeSql_whole (request : SqlRequest) (confirmed : Bool) :
    (Action.executeSql request confirmed).whole =
      .act id fun c => submitting request confirmed c.session.engine := by
  change Task.bind (Action.executeSql request confirmed).task _ = _
  rw [executeSql_task]
  rfl

/-- The list has come, and the table is not in it. -/
def Missing (table : String) (brought : Except Error Payload) : Prop :=
  ∃ ts, brought = .ok (.tables ts) ∧ ∀ t ∈ ts, t.name ≠ table

/-- What is selected when the table has been looked for in what a fetch has brought. -/
def Checked (table : String) (brought : Except Error Payload) (selected : Option String) : Prop :=
  (Missing table brought → selected = none) ∧ (¬ Missing table brought → selected = some table)

section Visits

variable {request : SqlRequest} {engine : Option Engine} {table : String} {x : Option Outcome}
  {c : Console}

/-- Behind SQL that cannot be read the selection is checked, whatever the reply tells. -/
theorem submitting_of_unread (confirmed : Bool) (unread : Sql.batch? engine request.sql = none) :
    (∃ e, submitting request confirmed engine = answered (.error e)) ∨
    ∃ (question : Console → Request) (answer : Reply → Except Error SqlResult),
      submitting request confirmed engine = .call question fun reply => answered (answer reply) := by
  have dropped : Sql.droppedTables? engine request.sql = none :=
    Sql.droppedTables?_eq_none_iff.mpr unread
  rw [submitting, executing, storeExecuteSql, Sql.scope_of_unread unread, dropped]
  cases request.validate with
  | error e => exact .inl ⟨e, rfl⟩
  | ok u =>
    dsimp only
    split
    · exact .inl ⟨_, rfl⟩
    · rcases IsRequest.of_sends (.sendSql request) with ⟨question, answer, same⟩ | ⟨e, same⟩ <;> rw [same]
      · refine .inr ⟨question, answer, congrArg (Task.call question) (funext fun reply => ?_)⟩
        change ((concluding _ (answer reply)).bind _).bind _ = _
        cases answer reply with
        | error e => rfl
        | ok result =>
          refine congrArg (Task.wait _) (congrArg (Task.act _) (funext fun _ => ?_))
          change (reconcile.bind _).bind _ = _
          rw [Task.bind_bind]
          rfl
      · exact .inl ⟨e, rfl⟩

theorem Civil.listing (table : String) (x : Option Outcome) : Civil (Console.listing table x) := by
  refine Civil.bind (Civil.bind (.of_work (.fetch _ _ _)) fun outcome => ?_) fun _ => trivial
  cases outcome with
  | error e => trivial
  | ok ts =>
    rw [comparing]
    split
    · trivial
    · exact ⟨fun c => ⟨.leave 0, rfl, rfl⟩, fun _ => trivial⟩

/-! ### How far a visit takes the check -/

/-- The reply is there, and nothing is asked any more. -/
theorem silent_answered (outcome : Except Error SqlResult) : Silent (answered outcome) := by
  cases outcome with
  | error e => trivial
  | ok result => exact fun _ => Silent.reconcile.bind fun _ => trivial

/-- Where a table is selected, a list is asked for. -/
theorem advanceThrough_reconcile (selected : c.workspace.table = some table) (waits : Nat) :
    (reconcile.bind fun _ => .done x).advanceThrough waits c =
      (listing table x).advanceThrough waits c := by
  rw [reconcile_eq, Task.bind_bind]
  refine (Task.advanceThrough_act waits c id _).trans ?_
  change ((checking c.workspace.table).bind _).advanceThrough waits c = _
  rw [selected]
  rfl

/-- A visit ends before the mark, or goes on behind it. -/
theorem advanceThrough_answered (selected : c.workspace.table = some table) (waits : Nat)
    (result : SqlResult) :
    (answered (.ok result)).advanceThrough waits c = (c, answered (.ok result)) ∨
      ∃ fewer, (answered (.ok result)).advanceThrough waits c =
        (listing table (some (.store (.ok (.result result))))).advanceThrough fewer
          { c with cache := c.cache.apply (.ofScope .schema) } := by
  rcases Task.advanceThrough_wait waits c (fun _ => true) _ with same | ⟨_, fewer, same⟩
  · exact .inl same
  · refine .inr ⟨fewer, same.trans ?_⟩
    refine (Task.advanceThrough_change_bind fewer c _ _).trans ?_
    exact advanceThrough_reconcile (c := { c with cache := c.cache.apply _ }) selected fewer

/-- Who reads anew waits for a fetch. -/
theorem exists_awaiting_of_fresh (c : Cache Payload Unit) (now : Nat) (key : Key) :
    ∃ flight, (c.read now key .fresh ()).2 = .awaiting flight := by
  cases reading : (c.read now key .fresh ()).2 with
  | served v => cases (Cache.trusted?_of_served c now key .fresh () v reading).1
  | awaiting flight => exact ⟨flight, rfl⟩

/-- A visit ends before the list is asked for, or waits for it: the fetch of it cannot be there. -/
theorem advanceThrough_listing (table : String) (x : Option Outcome) {started : Set (Flight Unit)}
    (ledger : c.cache.Ledger started) (waits : Nat) :
    (listing table x).advanceThrough waits c = (c, listing table x) ∨
      ∃ c' flight, (listing table x).advanceThrough waits c = (c', awaiting table flight x) ∧
        c'.cache.underway? .tables = some flight ∧ c'.workspace = c.workspace := by
  rcases Task.advanceThrough_wait waits c (fun _ => true) _ with same | ⟨_, fewer, same⟩
  · exact .inl same
  obtain ⟨flight, reading⟩ := exists_awaiting_of_fresh c.cache c.now .tables
  have joined := Cache.underway?_of_awaiting c.cache c.now .tables .fresh () flight reading
  have pending := ((ledger.read c.now .tables .fresh ()).underway .tables flight joined).1
  let c' : Console := { c with cache := (c.cache.read c.now .tables .fresh ()).1 }
  have goes : (listing table x).advanceThrough waits c =
      (awaiting table flight x).advanceThrough fewer c' := by
    refine same.trans ((Task.advanceThrough_act fewer c _ _).trans ?_)
    rw [awaiting, ← reading]
    rfl
  refine .inr ⟨c', flight, goes.trans ?_, joined, rfl⟩
  rcases Task.advanceThrough_wait fewer c' _ _ with stays | ⟨come, _⟩
  · exact stays
  · change ((c'.cache.landing? flight).map _).isSome = true at come
    rw [pending] at come
    cases come

theorem table_tableDropped {w : Workspace} (selected : w.table = some table) :
    (w.tableDropped table).table = none := by
  rw [Workspace.tableDropped, if_pos selected]
  rfl

/-- What a fetch of the tables has brought is a list of tables, or none. -/
theorem loaded_cases (table : String) (brought : Except Error Payload) :
    (∃ ts, brought = .ok (.tables ts) ∧
      brought.bind (Cache.ofKind .tables Payload.tables?) = .ok ts) ∨
    ∃ e, brought.bind (Cache.ofKind .tables Payload.tables?) = .error e ∧
      ¬ Missing table brought := by
  rcases brought with e | v
  · exact .inr ⟨e, rfl, fun ⟨_, same, _⟩ => by cases same⟩
  · cases v with
    | tables ts => exact .inl ⟨ts, rfl, rfl⟩
    | _ => exact .inr ⟨_, rfl, fun ⟨_, same, _⟩ => by cases same⟩

/-- The comparison ends the visit. -/
theorem advanceThrough_comparing (x : Option Outcome) (selected : c.workspace.table = some table)
    (waits : Nat) (brought : Except Error Payload) :
    ∃ c', ((comparing table (brought.bind (Cache.ofKind .tables Payload.tables?))).bind
        fun _ => .done x).advanceThrough waits c = (c', .done x) ∧
      Checked table brought c'.workspace.table := by
  have kept (found : ¬ Missing table brought) : Checked table brought c.workspace.table :=
    ⟨fun missing => absurd missing found, fun _ => selected⟩
  rcases loaded_cases table brought with ⟨ts, rfl, loaded⟩ | ⟨e, loaded, found⟩ <;>
    rw [loaded, comparing]
  · by_cases listed : ts.any (·.name == table) = true
    · rw [if_pos listed]
      refine ⟨c, Task.advanceThrough_done waits c x, kept ?_⟩
      rintro ⟨_, ⟨⟩, apart⟩
      obtain ⟨t, among, same⟩ := List.any_eq_true.mp listed
      exact apart t among (beq_iff_eq.mp same)
    · rw [if_neg listed]
      refine ⟨_, (Task.advanceThrough_change_bind waits c _ _).trans
        (Task.advanceThrough_done waits _ x), fun _ => table_tableDropped selected, fun found => ?_⟩
      refine absurd ⟨ts, rfl, fun t among same => listed ?_⟩ found
      exact List.any_eq_true.mpr ⟨t, among, beq_iff_eq.mpr same⟩
  · exact ⟨c, Task.advanceThrough_done waits c x, kept found⟩

/-- A visit ends before the list has come, or compares it. -/
theorem advanceThrough_awaiting (x : Option Outcome) (selected : c.workspace.table = some table)
    (waits flight : Nat) :
    (awaiting table flight x).advanceThrough waits c = (c, awaiting table flight x) ∨
      ∃ brought c', c.cache.landing? flight = some brought ∧
        (awaiting table flight x).advanceThrough waits c = (c', .done x) ∧
        Checked table brought c'.workspace.table := by
  rcases Task.advanceThrough_wait waits c _ _ with same | ⟨come, fewer, same⟩
  · exact .inl same
  obtain ⟨loaded, told⟩ := Option.isSome_iff_exists.mp come
  obtain ⟨brought, landed, rfl⟩ := Option.map_eq_some_iff.mp told
  obtain ⟨c', compared, checked⟩ := advanceThrough_comparing x selected fewer brought
  refine .inr ⟨brought, c', landed, same.trans (Eq.trans ?_ compared), checked⟩
  refine (Task.advanceThrough_act fewer c id _).trans ?_
  change ((comparing table (Option.getD _ _)).bind _).advanceThrough fewer c = _
  rw [told]
  rfl

end Visits

namespace Life

variable {E : Type} {r : Life E} {begun opened received place waits n : Nat}

/-! ### The list of tables behind the mark -/

def table (r : Life E) (n : Nat) : Option String :=
  (r.console n).workspace.table

/-- Between the two points nobody but the one action selects another table. -/
def Undisturbed (r : Life E) (begun opened n : Nat) : Prop :=
  ∀ m, opened ≤ m → m < n → (∀ t, ¬ r.Runs m begun.repr t) → r.table (m + 1) = r.table m

/-- What a visit leaves, with the departures taken up. -/
theorem console_succ_of_visit {name : String} {t t' : ConsoleTask (Option Outcome)} {c : Console}
    (happens : r.history.happens n = .visit place waits)
    (found : (r.history.pool n).threads[place]? = some (name, .ready t))
    (ran : t.advanceThrough waits (r.console n) = (c, t')) :
    r.console (n + 1) = (startedFetches c).2 := by
  have after := History.state_succ_of_visit happens found
  change r.console (n + 1) = (startedFetches (t.advanceThrough waits (r.console n)).1).2 at after
  rw [after, ran]

theorem table_succ_of_visit {name : String} {t t' : ConsoleTask (Option Outcome)} {c : Console}
    (happens : r.history.happens n = .visit place waits)
    (found : (r.history.pool n).threads[place]? = some (name, .ready t))
    (ran : t.advanceThrough waits (r.console n) = (c, t')) :
    r.table (n + 1) = c.workspace.table := by
  rw [table, console_succ_of_visit happens found ran]
  rfl

/-- Who asks nothing sends nothing. -/
theorem exchange?_of_silent {name : String} {t : ConsoleTask (Option Outcome)}
    (happens : r.history.happens n = .visit place waits)
    (found : (r.history.pool n).threads[place]? = some (name, .ready t)) (silent : Silent t) :
    r.exchange? n = none := by
  have left : Silent (t.advanceThrough waits (r.console n)).2 :=
    Task.advanceBy_keeps (fun _ t => Silent t) (fun c _ _ held => held c) (fun _ _ _ held => held)
      silent _
  rw [exchange?, History.exchange?, happens]
  dsimp only
  rw [Pool.asked?_of_ready found]
  change Pool.exchange? _ _ (t.advanceThrough waits (r.console n)).2 = none
  cases rest : (t.advanceThrough waits (r.console n)).2 with
  | call question next =>
    rw [rest] at left
    exact left.elim
  | _ => rfl

/-- What tasks keep to when nobody promises anything. -/
def baseline (r : Life E) (key : Key) :
    Discipline (systemBefore r.submit Outcome) (Set (Flight Unit)) :=
  promising r.submit (heeds_anything key) 0 none (Option.some_ne_none "").symm (fun _ _ _ => True)
    fun _ _ _ _ _ _ _ => id

/-- Whatever happens, the cache keeps its books. -/
theorem exists_kept_baseline (books : ∃ started, r.start.cache.Ledger started) (key : Key) (n : Nat) :
    ∃ g heard, (r.baseline key).Kept g heard (r.history.pool n) := by
  obtain ⟨started, ledger⟩ := books
  have start : (r.baseline key).Kept started ∅ (r.history.pool 0) :=
    ⟨⟨ledger, ⟨fun _ _ => trivial, fun _ _ => Nat.zero_le _, Nat.zero_le _⟩,
      fun _ _ _ _ _ _ => trivial⟩, .init _ _⟩
  obtain ⟨g, kept⟩ := start.onwards (Nat.zero_le n) fun k g heard _ kept =>
    kept_succ kept fun _ _ => nofun
  exact ⟨g, _, kept⟩

/-- What is kept to behind a mark: what is brought by later fetches of the tables was answered. -/
def listingSince (r : Life E) (received : Nat) :
    Discipline (systemBefore r.submit Outcome) (Set (Flight Unit)) :=
  promising r.submit (heeds_answered .tables) (r.console received).cache.nextFlight none
    (Option.some_ne_none "").symm (fun _ _ _ => True) fun _ _ _ _ _ _ _ => id

/-- The action has asked and has its reply, and has marked all that was cached. -/
structure Marked (r : Life E) (begun opened received n : Nat) (g : Set (Flight Unit)) : Prop where
  asks : (r.exchange? opened).isSome
  hears : ∃ t, r.Runs received begun.repr t ∧ Silent t
  behind : opened < received
  before : received < n
  kept : (r.listingSince received).Kept g (Discipline.askedSince r.exchange? (received + 1) n)
    (r.history.pool n)

theorem Marked.succ {g : Set (Flight Unit)} (marked : r.Marked begun opened received n g) :
    ∃ g', g ⊆ g' ∧ r.Marked begun opened received (n + 1) g' := by
  obtain ⟨g', more, kept⟩ := kept_succ marked.kept fun _ _ => nofun
  exact ⟨g', more, marked.asks, marked.hears, marked.behind, Nat.lt_succ_of_lt marked.before,
    kept.hear (Discipline.askedSince_union marked.before)⟩

/-- A visit that marks all that is cached and then goes on as a task that behaves. -/
theorem exists_marked (books : ∃ started, r.start.cache.Ledger started)
    {t t' : ConsoleTask (Option Outcome)} {fewer : Nat} (asks : (r.exchange? opened).isSome)
    (behind : opened < n) (happens : r.history.happens n = .visit place waits)
    (found : (r.history.pool n).threads[place]? = some (begun.repr, .ready t)) (silent : Silent t)
    (civil : Civil t') (goes : t.advanceThrough waits (r.console n) = t'.advanceThrough fewer
      { r.console n with cache := (r.console n).cache.apply (.ofScope .schema) }) :
    ∃ g, r.Marked begun opened n (n + 1) g := by
  obtain ⟨g, heard, kept⟩ := exists_kept_baseline books .tables n
  have forgotten : Forgotten .tables ((r.console n).cache.apply (.ofScope .schema)) :=
    forgotten_apply kept.state.ledger rfl
  have promised : Promised .tables (r.console n).cache.nextFlight (Answered .tables) g ∅
      { r.console n with cache := (r.console n).cache.apply (.ofScope .schema) } :=
    .of_none (kept.state.ledger.invalidate _) forgotten.1 forgotten.2
  obtain ⟨g', kept'⟩ := History.kept_succ_of_visit (d := r.listingSince n) happens found promised
    ⟨nofun, fun _ => .inl civil⟩ goes fun i _ other th at_i => by
      refine (kept.tasks other th (List.mem_of_getElem? at_i)).mono fun t kind => ⟨nofun, fun _ => ?_⟩
      exact (kind.2 nofun).of_below kept.state.ledger.below
  refine ⟨g', asks, ⟨t, ⟨place, waits, happens, found⟩, silent⟩, behind, Nat.lt_succ_self n,
    kept'.hear ?_⟩
  rintro y (heard | asked)
  · exact heard.elim
  · cases (exchange?_of_silent happens found silent).symm.trans asked

/-! ### What is expected of the action -/

/-- Behind the mark the action has waited for a fetch of the tables; what this has brought was answered
to a request that was sent behind the mark. -/
structure Consults (r : Life E) (begun received closed : Nat) (brought : Except Error Payload) :
    Prop where
  hears : ∃ t, r.Runs received begun.repr t ∧ Silent t
  joins : ∃ asked flight, received ≤ asked ∧ asked < closed ∧ (∃ t, r.Runs asked begun.repr t) ∧
    (r.console (asked + 1)).cache.underway? .tables = some flight ∧
    (r.console closed).cache.landing? flight = some brought
  since : ∀ v, brought = .ok v → ∃ sent request reply, received < sent ∧ sent < closed ∧
    r.exchange? sent = some (request, reply) ∧ Gives .tables request reply v

/-- The fetch has a number that was free at the mark, so it is promised what it brings. -/
theorem Marked.consults {g : Set (Flight Unit)} {asked : Nat} {f : Flight Unit}
    {brought : Except Error Payload} (marked : r.Marked begun opened received n g)
    (later : received ≤ asked) (early : asked < n) (runs : ∃ t, r.Runs asked begun.repr t)
    (joins : (r.console (asked + 1)).cache.underway? .tables = some f.id) (member : f ∈ g)
    (sameKey : f.key = .tables) (least : (r.console received).cache.nextFlight ≤ f.id)
    (landed : (r.console n).cache.landing? f.id = some brought) :
    r.Consults begun received n brought where
  hears := marked.hears
  joins := ⟨asked, f.id, later, early, runs, joins, landed⟩
  since := by
    rintro v rfl
    obtain ⟨y, ⟨sent, behind, before, told⟩, gives⟩ :=
      marked.kept.state.brings f member sameKey least v landed
    exact ⟨sent, y.1, y.2, behind, before, told, gives⟩

/-- How far the action has got with the selection of the table. -/
inductive Rechecks (r : Life E) (begun opened : Nat) (table : String) (n : Nat)
    (t : ConsoleTask (Option Outcome)) : Prop
  | failed (e : Error) (is : t = .done (some (.store (.error e))))
  | replied (result : SqlResult) (asks : (r.exchange? opened).isSome) (before : opened < n)
    (selected : r.table n = some table) (is : t = answered (.ok result))
  | marked (received : Nat) (g : Set (Flight Unit)) (marked : r.Marked begun opened received n g)
    (x : Option Outcome) (selected : r.table n = some table) (is : t = listing table x)
  | joined (received asked flight : Nat) (g : Set (Flight Unit))
    (marked : r.Marked begun opened received n g) (later : received ≤ asked) (early : asked < n)
    (runs : ∃ t, r.Runs asked begun.repr t)
    (joins : (r.console (asked + 1)).cache.underway? .tables = some flight)
    (late : ∃ f ∈ g, f.id = flight ∧ f.key = .tables ∧
      (r.console received).cache.nextFlight ≤ flight)
    (x : Option Outcome) (selected : r.table n = some table) (is : t = awaiting table flight x)
  | compared (received closed : Nat) (c : Console) (brought : Except Error Payload)
    (asks : (r.exchange? opened).isSome) (behind : opened < received) (before : closed < n)
    (consults : r.Consults begun received closed brought) (x : Option Outcome)
    (ends : r.history.Ends closed begun.repr x c) (checked : Checked table brought (r.table n))
    (is : t = .done x)

namespace Rechecks

variable {table : String} {t : ConsoleTask (Option Outcome)}

/-- The task neither asks nor sleeps. -/
theorem stands (rechecks : r.Rechecks begun opened table n t) :
    (∀ question next, t ≠ .call question next) ∧ ∀ time next, t ≠ .sleep time next := by
  cases rechecks with
  | failed e is => subst is; exact ⟨nofun, nofun⟩
  | replied result asks before selected is => subst is; exact ⟨nofun, nofun⟩
  | marked received g marked x selected is => subst is; exact ⟨nofun, nofun⟩
  | joined received asked flight g marked later early runs joins late x selected is =>
    subst is
    exact ⟨nofun, nofun⟩
  | compared received closed c brought asks behind before consults x ends checked is =>
    subst is
    exact ⟨nofun, nofun⟩

theorem others (rechecks : r.Rechecks begun opened table n t) (quiet : r.table (n + 1) = r.table n) :
    r.Rechecks begun opened table (n + 1) t := by
  cases rechecks with
  | failed e is => exact .failed e is
  | replied result asks before selected is =>
    exact .replied result asks (Nat.lt_succ_of_lt before) (quiet.trans selected) is
  | marked received g marked x selected is =>
    obtain ⟨g', _, marked'⟩ := marked.succ
    exact .marked received g' marked' x (quiet.trans selected) is
  | joined received asked flight g marked later early runs joins late x selected is =>
    obtain ⟨g', more, marked'⟩ := marked.succ
    obtain ⟨f, member, facts⟩ := late
    exact .joined received asked flight g' marked' later (Nat.lt_succ_of_lt early) runs joins
      ⟨f, more member, facts⟩ x (quiet.trans selected) is
  | compared received closed c brought asks behind before consults x ends checked is =>
    exact .compared received closed c brought asks behind (Nat.lt_succ_of_lt before) consults x ends
      (quiet ▸ checked) is

/-- A visit that asks for the list, or ends before it does so. -/
theorem listed {received fewer : Nat} {g started : Set (Flight Unit)} {c : Console}
    {x : Option Outcome} (ledger : c.cache.Ledger started) (selected : c.workspace.table = some table)
    (happens : r.history.happens n = .visit place waits)
    (found : (r.history.pool n).threads[place]? = some (begun.repr, .ready t))
    (goes : t.advanceThrough waits (r.console n) = (listing table x).advanceThrough fewer c)
    (le : received ≤ n) (marked : r.Marked begun opened received (n + 1) g) :
    r.Rechecks begun opened table (n + 1) (t.advanceThrough waits (r.console n)).2 := by
  rcases advanceThrough_listing table x ledger fewer with stays | ⟨c', flight, reads, joined, same⟩
  · have ran := goes.trans stays
    rw [ran]
    exact .marked received g marked x ((table_succ_of_visit happens found ran).trans selected) rfl
  · have ran := goes.trans reads
    have joins : (r.console (n + 1)).cache.underway? .tables = some flight := by
      rw [console_succ_of_visit happens found ran]
      exact joined
    have selected' : r.table (n + 1) = some table := by
      rw [table_succ_of_visit happens found ran, same, selected]
    rw [ran]
    exact .joined received n flight g marked le (Nat.lt_succ_self n)
      ⟨t, place, waits, happens, found⟩ joins (Awaits.of_underway marked.kept.state joins) x
      selected' rfl

/-- Each visit takes the check on, or leaves it where it is. -/
theorem visit (books : ∃ started, r.start.cache.Ledger started)
    (happens : r.history.happens n = .visit place waits)
    (found : (r.history.pool n).threads[place]? = some (begun.repr, .ready t))
    (rechecks : r.Rechecks begun opened table n t) :
    r.Rechecks begun opened table (n + 1) (t.advanceThrough waits (r.console n)).2 := by
  have stay (stays : t.advanceThrough waits (r.console n) = (r.console n, t)) :
      r.Rechecks begun opened table (n + 1) (t.advanceThrough waits (r.console n)).2 := by
    rw [stays]
    exact rechecks.others (table_succ_of_visit happens found stays)
  cases rechecks with
  | failed e is =>
    subst is
    exact stay (Task.advanceThrough_done _ _ _)
  | replied result asks before selected is =>
    subst is
    rcases advanceThrough_answered selected waits result with stays | ⟨fewer, goes⟩
    · exact stay stays
    · obtain ⟨g, marked⟩ := exists_marked books asks before happens found (silent_answered _)
        (.listing table _) goes
      obtain ⟨_, _, kept⟩ := exists_kept_baseline books .tables n
      exact listed (c := { r.console n with cache := (r.console n).cache.apply _ })
        (kept.state.ledger.invalidate _) selected happens found goes le_rfl marked
  | marked received g marked x selected is =>
    subst is
    obtain ⟨g', _, marked'⟩ := marked.succ
    exact listed marked.kept.state.ledger selected happens found rfl (Nat.le_of_lt marked.before)
      marked'
  | joined received asked flight g marked later early runs joins late x selected is =>
    subst is
    rcases advanceThrough_awaiting x selected waits flight with
      stays | ⟨brought, c', landed, ran, checked⟩
    · exact stay stays
    · obtain ⟨f, member, rfl, sameKey, least⟩ := late
      have ends : r.history.Ends n begun.repr x c' := ⟨place, waits, _, happens, found, ran⟩
      rw [← table_succ_of_visit happens found ran] at checked
      rw [ran]
      exact .compared received n c' brought marked.asks marked.behind (Nat.lt_succ_self n)
        (marked.consults later early runs joins member sameKey least landed) x ends checked rfl
  | compared received closed c brought asks behind before consults x ends checked is =>
    subst is
    exact stay (Task.advanceThrough_done _ _ _)

end Rechecks

/-! ### From the first visit on -/

variable {request : SqlRequest} {confirmed : Bool}

/-- What is left of running SQL: all of it, or what is behind its first visit, at which the engine and
the selected table are those that count. -/
def Executing (r : Life E) (begun : Nat) (request : SqlRequest) (confirmed : Bool) (n : Nat)
    (t : ConsoleTask (Option Outcome)) : Prop :=
  t = (Action.executeSql request confirmed).whole ∨
    ∃ opened, begun < opened ∧ opened < n ∧
      r.Runs opened begun.repr (Action.executeSql request confirmed).whole ∧
      ∀ table, Sql.batch? (r.console opened).session.engine request.sql = none →
        r.table opened = some table → r.Undisturbed begun opened n →
        r.Rechecks begun opened table n t

theorem Undisturbed.succ (undisturbed : r.Undisturbed begun opened (n + 1)) :
    r.Undisturbed begun opened n :=
  fun m le lt => undisturbed m le (Nat.lt_succ_of_lt lt)

namespace Executing

variable {t : ConsoleTask (Option Outcome)}

/-- The first visit sends the text, or refuses it. -/
theorem opens (lt : begun < n) (happens : r.history.happens n = .visit place waits)
    (found : (r.history.pool n).threads[place]? =
      some (begun.repr, .ready (Action.executeSql request confirmed).whole)) :
    ((Action.executeSql request confirmed).whole.advanceThrough waits (r.console n)).2.Resumes
      (fun question reply => r.exchange? n = some (question (r.console (n + 1)), reply))
      (r.Executing begun request confirmed (n + 1)) := by
  have goes : (Action.executeSql request confirmed).whole.advanceThrough waits (r.console n) =
      (submitting request confirmed (r.console n).session.engine).advanceThrough waits
        (r.console n) := by
    rw [executeSql_whole, Task.advanceThrough_act]
    rfl
  have opened (rest : ConsoleTask (Option Outcome)) (rechecks : ∀ table,
      Sql.batch? (r.console n).session.engine request.sql = none → r.table n = some table →
      r.Undisturbed begun n (n + 1) → r.Rechecks begun n table (n + 1) rest) :
      r.Executing begun request confirmed (n + 1) rest :=
    .inr ⟨n, lt, Nat.lt_succ_self n, ⟨place, waits, happens, found⟩, rechecks⟩
  by_cases unread : Sql.batch? (r.console n).session.engine request.sql = none
  · rcases submitting_of_unread confirmed unread with ⟨e, same⟩ | ⟨question, answer, same⟩ <;>
      rw [same] at goes
    · rw [goes]
      exact opened _ fun table _ _ _ => .failed e (by rw [answered, Task.advanceThrough_done])
    · rw [Task.advanceThrough_call] at goes
      rw [goes]
      intro reply told
      refine opened (answered (answer reply)) fun table _ selected _ => ?_
      cases answer reply with
      | error e => exact .failed e rfl
      | ok result =>
        refine .replied result ?_ (Nat.lt_succ_self n) ?_ rfl
        · rw [told]
          rfl
        · exact (table_succ_of_visit happens found goes).trans selected
  · -- Of a text that can be read nothing is expected here.
    exact .of_holds (opened _ fun _ read => absurd read unread)
      (fun _ _ _ _ _ => opened _ fun _ read => absurd read unread)
      fun _ _ _ => opened _ fun _ read => absurd read unread

/-- Later visits take the check on. -/
theorem visit (books : ∃ started, r.start.cache.Ledger started) (lt : begun < n)
    (happens : r.history.happens n = .visit place waits)
    (found : (r.history.pool n).threads[place]? = some (begun.repr, .ready t))
    (executing : r.Executing begun request confirmed n t) :
    (t.advanceThrough waits (r.console n)).2.Resumes
      (fun question reply => r.exchange? n = some (question (r.console (n + 1)), reply))
      (r.Executing begun request confirmed (n + 1)) := by
  rcases executing with rfl | ⟨opened, behind, before, runs, left⟩
  · exact opens lt happens found
  have further (rest : ConsoleTask (Option Outcome)) (rechecks : ∀ table,
      r.Rechecks begun opened table (n + 1) (t.advanceThrough waits (r.console n)).2 →
        r.Rechecks begun opened table (n + 1) rest) :
      r.Executing begun request confirmed (n + 1) rest :=
    .inr ⟨opened, behind, Nat.lt_succ_of_lt before, runs, fun table unread selected undisturbed =>
      rechecks table ((left table unread selected undisturbed.succ).visit books happens found)⟩
  cases rest : (t.advanceThrough waits (r.console n)).2 with
  | call question next =>
    exact fun _ _ => further _ fun _ rechecks => absurd rest (rechecks.stands.1 question next)
  | sleep time next =>
    exact further _ fun _ rechecks => absurd rest (rechecks.stands.2 time next)
  | _ => exact further _ fun _ => rest ▸ id

theorem others {t : ConsoleTask (Option Outcome)} (quiet : ∀ t', ¬ r.Runs n begun.repr t')
    (executing : r.Executing begun request confirmed n t) :
    r.Executing begun request confirmed (n + 1) t := by
  rcases executing with rfl | ⟨opened, behind, before, runs, rechecks⟩
  · exact .inl rfl
  · refine .inr ⟨opened, behind, Nat.lt_succ_of_lt before, runs, ?_⟩
    intro table unread selected undisturbed
    exact (rechecks table unread selected undisturbed.succ).others
      (undisturbed n (Nat.le_of_lt before) (Nat.lt_succ_self n) quiet)

end Executing

/-- Behind SQL that cannot be read, that succeeds while a table is selected, and during which nobody
else selects another one, the table is still selected unless the list of tables has come that the
action has then waited for, and does not hold it. The list was answered to a request that was sent when
the response to the SQL had been received, whatever was cached or being fetched at the time. -/
theorem rechecked_behind_unread (books : ∃ started, r.start.cache.Ledger started)
    (begins : r.does begun = .begin (.executeSql request confirmed)) {x : Returned}
    (returned : r.returned? begun n = some (.store (.ok x))) :
    ∃ opened, begun < opened ∧ opened < n ∧
      r.Runs opened begun.repr (Action.executeSql request confirmed).whole ∧
      ∀ table, Sql.batch? (r.console opened).session.engine request.sql = none →
        r.table opened = some table → r.Undisturbed begun opened n →
        ∃ received closed c brought, (r.exchange? opened).isSome ∧ opened < received ∧ closed < n ∧
          r.Ends closed begun.repr (.store (.ok x)) c ∧
          r.Consults begun received closed brought ∧ Checked table brought (r.table n) := by
  have lt : begun < n := History.lt_of_result? returned
  have left := History.tracked (r.Executing begun request confirmed) (happens_of_begin begins)
    (.inl rfl) (fun n place waits t lt happens found => Executing.visit books lt happens found)
    (fun n t _ quiet => Executing.others quiet) lt begun.repr _ (Pool.mem_of_result? returned) rfl
  rcases left with same | ⟨opened, behind, before, runs, rechecks⟩
  · rw [executeSql_whole] at same
    cases same
  refine ⟨opened, behind, before, runs, fun table unread selected undisturbed => ?_⟩
  cases rechecks table unread selected undisturbed with
  | failed e is => cases is
  | replied result asks before selected is => cases is
  | marked received g marked x selected is => cases is
  | joined received asked flight g marked later early runs joins late x selected is => cases is
  | compared received closed c brought asks behind before consults x ends checked is =>
    cases is
    exact ⟨received, closed, c, brought, asks, behind, before, ends, consults, checked⟩

/-- The selected table is dropped in words that cannot be read, while a list of the tables is on its way
that still holds it. -/
def droppedUnread : Life Bool where
  submit := Interleaving.droppingBackend
  start := tokenConsole ⟨some "t", [], .table, Workspace.firstPage, 4⟩
  world := false
  does
    | 0 => .begin (.operate (.read (.one .tables .cached)))
    | 1 => .visit 0 1
    | 2 => .visit 1 0
    | 3 => .begin (.executeSql ⟨"DROP TABLE t; FROBNICATE x"⟩ true)
    | 4 => .visit 2 0
    | 5 => .visit 2 2
    | 6 => .visit 3 0
    | 7 => .release "late"
    | 8 => .visit 1 1
    | 9 => .visit 3 1
    | 10 => .visit 2 1
    | _ => .tidy

/-- The list that was on its way is not taken for one that was asked for behind the drop. -/
theorem droppedUnread_deselects : (∃ started, droppedUnread.start.cache.Ledger started) ∧
    ∃ x, droppedUnread.returned? 3 11 = some (.store (.ok x)) ∧
      Sql.batch? none "DROP TABLE t; FROBNICATE x" = none ∧ droppedUnread.table 4 = some "t" ∧
      ∃ received closed brought, 4 ≤ received ∧ closed < 11 ∧
        droppedUnread.Consults 3 received closed brought ∧ Missing "t" brought ∧
        droppedUnread.table 11 = none := by
  have books : ∃ started, droppedUnread.start.cache.Ledger started := ⟨∅, .empty _⟩
  have begins : droppedUnread.does 3 =
      .begin (.executeSql ⟨"DROP TABLE t; FROBNICATE x"⟩ true) := rfl
  have succeeded : Outcome.Stored (droppedUnread.returned? 3 11) := by decide +kernel
  have unread : Sql.batch? none "DROP TABLE t; FROBNICATE x" = none :=
    Option.isNone_iff_eq_none.mp (by decide +kernel)
  have selected : ∀ m ∈ List.range 11, droppedUnread.table m = some "t" ∧
      (droppedUnread.console m).session.engine = none := by decide +kernel
  have deselected : droppedUnread.table 11 = none := by decide +kernel
  have last : ∃ t, droppedUnread.Runs 10 (Nat.repr 3) t :=
    (Pool.exists_ready_of_canRun (s := droppedUnread.console 10) (by decide +kernel)).imp
      fun _ found => ⟨2, 1, rfl, found⟩
  obtain ⟨x, returned⟩ := succeeded
  obtain ⟨opened, behind, before, runs, rechecks⟩ :=
    rechecked_behind_unread books begins returned
  have at_ := selected opened (List.mem_range.mpr before)
  have undisturbed : droppedUnread.Undisturbed 3 opened 11 := by
    intro m _ lt others
    rcases Nat.lt_or_eq_of_le (Nat.le_of_lt_succ lt) with early | rfl
    · rw [(selected m (List.mem_range.mpr lt)).1, (selected (m + 1) (List.mem_range.mpr (by omega))).1]
    · exact absurd last.choose_spec (others _)
  obtain ⟨received, closed, c, brought, _, later, early, _, consults, checked⟩ :=
    rechecks "t" (at_.2 ▸ unread) at_.1 undisturbed
  refine ⟨books, x, returned, unread, (selected 4 (by decide)).1, received, closed, brought, by omega,
    early, consults, ?_, deselected⟩
  by_contra found
  cases deselected.symm.trans (checked.2 found)

end Life

end DbConsole.Console

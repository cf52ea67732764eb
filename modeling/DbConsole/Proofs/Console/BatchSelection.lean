import DbConsole.Console.Changes
import DbConsole.Proofs.Console.Course
import DbConsole.Proofs.Console.SessionStep

/-!
The selected table behind a batch of SQL. One statement after the other, a drop of the table ends the
selection and a rename carries it along. A batch that succeeds leaves the selection where the drops of all
its statements and then the renames of all its statements leave it. That is where the statements leave it,
one after the other, just if drops and renames do not get in each other's way.
-/
set_option autoImplicit false

namespace DbConsole

namespace Sql

/-- The selected table behind one statement. -/
def Statement.carried (selected : Option String) : Statement → Option String
  | .drop .table names =>
    if selected ∈ names.map (fun name => some name.bare) then none else selected
  | .alterTable table changes =>
    changes.foldl (fun selected change =>
      match change with
      | .rename newName => if selected = some table.bare then some newName.bare else selected
      | _ => selected) selected
  | .renameTables renames =>
    renames.foldl (fun selected (old, new) =>
      if selected = some old.bare then some new.bare else selected) selected
  | _ => selected

/-- All the tables that the statements drop. -/
def drops (statements : List Statement) : List String :=
  statements.flatMap Statement.droppedTables

/-- The renames of all the statements. -/
def renames (statements : List Statement) : List (String × String) :=
  statements.flatMap Statement.renamedTables

/-- The selected table behind a batch, one statement after the other. -/
def carriedThrough (statements : List Statement) (selected : Option String) : Option String :=
  statements.foldl Statement.carried selected

end Sql

/-- The selected table when tables have been dropped. -/
def spared (dropped : List String) (selected : Option String) : Option String :=
  if selected ∈ dropped.map some then none else selected

/-- The selected table when tables have been renamed, one behind the other. -/
def followed (renamed : List (String × String)) (selected : Option String) : Option String :=
  renamed.foldl (fun selected p => if selected = some p.1 then some p.2 else selected) selected

theorem spared_eq_none_iff (dropped : List String) (selected : Option String) :
    spared dropped selected = none ↔ ∀ table, selected = some table → table ∈ dropped := by
  cases selected <;> simp [spared]

@[simp] theorem spared_none (dropped : List String) : spared dropped none = none :=
  (spared_eq_none_iff dropped none).mpr nofun

theorem spared_append (dropped dropped' : List String) (selected : Option String) :
    spared (dropped ++ dropped') selected = spared dropped' (spared dropped selected) := by
  unfold spared
  rw [List.map_append]
  by_cases first : selected ∈ dropped.map some
  · rw [if_pos (List.mem_append_left _ first), if_pos first, ite_self]
  · simp only [List.mem_append, first, false_or, if_false]

/-- Drops either end the selection or leave it. -/
theorem spared_eq_self {dropped : List String} {selected : Option String}
    (kept : spared dropped selected ≠ none) : spared dropped selected = selected := by
  unfold spared at kept ⊢
  split
  · rename_i among
    rw [if_pos among] at kept
    exact absurd rfl kept
  · rfl

@[simp] theorem followed_none (renamed : List (String × String)) :
    followed renamed none = none := by
  induction renamed with
  | nil => rfl
  | cons p rest ih => exact ih

theorem followed_append (renamed renamed' : List (String × String)) (selected : Option String) :
    followed (renamed ++ renamed') selected = followed renamed' (followed renamed selected) :=
  List.foldl_append

theorem followed_eq_none_iff (renamed : List (String × String)) (selected : Option String) :
    followed renamed selected = none ↔ selected = none := by
  induction renamed generalizing selected with
  | nil => exact Iff.rfl
  | cons p rest ih =>
    change followed rest (if selected = some p.1 then some p.2 else selected) = none ↔ _
    rw [ih]
    split
    · rename_i here
      simp [here]
    · exact Iff.rfl

namespace Sql

theorem Statement.carried_eq (statement : Statement) (selected : Option String) :
    statement.carried selected =
      followed statement.renamedTables (spared statement.droppedTables selected) := by
  have kept : spared [] selected = selected := if_neg List.not_mem_nil
  cases statement with
  | drop target names =>
    cases target with
    | table =>
      change _ = if selected ∈ (names.map Name.bare).map some then none else selected
      rw [List.map_map]
      rfl
    | _ => exact kept.symm
  | alterTable table changes =>
    change _ = followed (renamedTables (.alterTable table changes)) (spared [] selected)
    rw [kept, carried, renamedTables, followed, List.foldl_filterMap]
    refine congrArg (List.foldl · selected changes) (funext fun selected => funext fun change => ?_)
    cases change <;> rfl
  | renameTables renames =>
    change _ = followed (renamedTables (.renameTables renames)) (spared [] selected)
    rw [kept, carried, renamedTables, followed, List.foldl_map]
  | _ => exact kept.symm

@[simp] theorem carriedThrough_none (statements : List Statement) :
    carriedThrough statements none = none := by
  induction statements with
  | nil => rfl
  | cons statement rest ih =>
    change carriedThrough rest (statement.carried none) = none
    rw [Statement.carried_eq, spared_none, followed_none, ih]

/-- A batch that does not end the selection carries it through all its renames. -/
theorem carriedThrough_eq_followed {statements : List Statement} {selected : Option String}
    (kept : carriedThrough statements selected ≠ none) :
    carriedThrough statements selected = followed (renames statements) selected := by
  induction statements generalizing selected with
  | nil => rfl
  | cons statement rest ih =>
    change carriedThrough rest (statement.carried selected) ≠ none at kept
    change carriedThrough rest (statement.carried selected) = _
    have first : statement.carried selected = followed statement.renamedTables selected := by
      rw [Statement.carried_eq, spared_eq_self]
      intro ended
      rw [Statement.carried_eq, ended, followed_none, carriedThrough_none] at kept
      exact kept rfl
    rw [renames, List.flatMap_cons, followed_append, ih kept, first, renames]

/-- Taking the drops first and the renames behind them makes no difference just if the drops name
the table that was selected where the batch, one statement after the other, ends the selection. -/
theorem followed_spared_eq_carriedThrough_iff (statements : List Statement)
    (selected : Option String) :
    followed (renames statements) (spared (drops statements) selected) =
      carriedThrough statements selected ↔
    (carriedThrough statements selected = none ↔
      ∀ table, selected = some table → table ∈ drops statements) := by
  rw [← spared_eq_none_iff]
  constructor
  · intro same
    rw [← same, followed_eq_none_iff]
  · intro both
    by_cases ended : carriedThrough statements selected = none
    · rw [ended, both.mp ended, followed_none]
    · rw [carriedThrough_eq_followed ended, spared_eq_self fun none => ended (both.mpr none)]

end Sql

namespace Workspace

theorem table_tableDropped (w : Workspace) (table : String) :
    (w.tableDropped table).table = spared [table] w.table := by
  unfold tableDropped spared
  rw [List.map_singleton]
  split
  · rename_i here
    rw [if_pos (List.mem_singleton.mpr here)]
    rfl
  · rename_i apart
    rw [if_neg (apart ∘ List.mem_singleton.mp)]

theorem table_tableRenamed (w : Workspace) (old new : String) :
    (w.tableRenamed old new).table = followed [(old, new)] w.table := by
  unfold tableRenamed
  change _ = if _ then _ else _
  split <;> rfl

theorem table_foldl_tableDropped (dropped : List String) (w : Workspace) :
    (dropped.foldl tableDropped w).table = spared dropped w.table := by
  induction dropped generalizing w with
  | nil => exact (if_neg List.not_mem_nil).symm
  | cons table rest ih =>
    rw [List.foldl_cons, ih, table_tableDropped, ← spared_append, List.singleton_append]

theorem table_foldl_tableRenamed (renamed : List (String × String)) (w : Workspace) :
    (renamed.foldl (fun w p => w.tableRenamed p.1 p.2) w).table = followed renamed w.table := by
  induction renamed generalizing w with
  | nil => rfl
  | cons p rest ih =>
    rw [List.foldl_cons, ih, table_tableRenamed, ← followed_append, List.singleton_append]

end Workspace

theorem Console.table_followBatch (dropped : List String) (renamed : List (String × String))
    (w : Workspace) :
    (followBatch dropped renamed w).table = followed renamed (spared dropped w.table) := by
  rw [followBatch, Workspace.table_foldl_tableRenamed, Workspace.table_foldl_tableDropped]

end DbConsole

namespace DbConsole

theorem Pool.exists_ready_of_canRun {σ E Q A R : Type} {p : Pool σ E Q A R} {s : σ} {place : Nat}
    {name : String}
    (there : p.threads[place]?.any fun q => q.1 == name && Pool.canRun s q.2) :
    ∃ t, p.threads[place]? = some (name, .ready t) := by
  cases found : p.threads[place]? with
  | none =>
    rw [found] at there
    cases there
  | some q =>
    obtain ⟨other, th⟩ := q
    rw [found, Option.any_some, Bool.and_eq_true, beq_iff_eq] at there
    obtain ⟨rfl, runs⟩ := there
    cases th with
    | ready t => exact ⟨t, rfl⟩
    | _ => cases runs

namespace Console

variable {α β : Type}

/-- The task leaves the view alone until it changes it in the given way and comes to its end; it
does not succeed without that. -/
def Follows (change : Workspace → Workspace) :
    ConsoleTask (Option (Except Error Returned)) → Prop
  | .done outcome => ∀ returned, outcome ≠ some (.ok returned)
  | .act update next =>
    ((∀ c, (update c).workspace = c.workspace) ∧ ∀ c, Follows change (next c)) ∨
      ((∀ c, (update c).workspace = change c.workspace) ∧ ∀ c, ∃ outcome, next c = .done outcome)
  | .wait _ next => Follows change next
  | .call _ next => ∀ reply, Follows change (next reply)
  | .sleep _ next => Follows change next

/-- The task leaves the view alone. -/
def KeepsView (t : ConsoleTask α) : Prop :=
  t.Within fun c c' => c'.workspace = c.workspace

theorem KeepsView.storeExecuteSql (request : SqlRequest) (engine : Option Engine)
    (confirmed : Bool) : KeepsView (Console.storeExecuteSql request engine confirmed) := by
  unfold Console.storeExecuteSql
  cases request.validate with
  | error e => trivial
  | ok u =>
    dsimp only
    split
    · trivial
    · refine (IsRequest.of_sends (.sendSql request)).within.bind fun outcome => ?_
      cases outcome with
      | error e => trivial
      | ok a => exact ⟨fun _ => rfl, fun _ => trivial⟩

namespace Follows

variable {change : Workspace → Workspace}

theorem behind {t : ConsoleTask β} {k : β → ConsoleTask (Option (Except Error Returned))}
    (keeps : KeepsView t) (follows : ∀ b, Follows change (k b)) : Follows change (t.bind k) := by
  induction t with
  | done b => exact follows b
  | act update next ih => exact Or.inl ⟨keeps.1, fun c => ih c (keeps.2 c)⟩
  | wait ready next ih => exact ih keeps
  | call question next ih => exact fun reply => ih reply (keeps reply)
  | sleep time next ih => exact ih keeps

/-- A visit either leaves the view alone or changes it in the given way, and then it is the last
one. -/
theorem advanceThrough {t : ConsoleTask (Option (Except Error Returned))}
    (follows : Follows change t) (waits : Nat) (c : Console) :
    (Follows change (t.advanceThrough waits c).2 ∧
      (t.advanceThrough waits c).1.workspace = c.workspace) ∨
    ((∃ outcome, (t.advanceThrough waits c).2 = .done outcome) ∧
      (t.advanceThrough waits c).1.workspace = change c.workspace) := by
  refine Task.advanceBy_keeps (fun (c' : Console) t =>
    (Follows change t ∧ c'.workspace = c.workspace) ∨
      ((∃ outcome, t = .done outcome) ∧ c'.workspace = change c.workspace))
    ?_ ?_ (Or.inl ⟨follows, rfl⟩) _
  · rintro c' update next (⟨⟨keeps, follows⟩ | ⟨changes, ends⟩, same⟩ | ⟨⟨_, ended⟩, _⟩)
    · exact Or.inl ⟨follows c', (keeps c').trans same⟩
    · exact Or.inr ⟨ends c', (changes c').trans (congrArg change same)⟩
    · cases ended
  · rintro c' ready next (⟨follows, same⟩ | ⟨⟨_, ended⟩, _⟩)
    · exact Or.inl ⟨follows, same⟩
    · cases ended

end Follows

/-- What is left of running SQL when the engine is known. -/
def executing (request : SqlRequest) (confirmed : Bool) (engine : Option Engine) :
    ConsoleTask (Option (Except Error Returned)) :=
  (storeExecuteSql request engine confirmed).bind fun
    | .error e => .done (some (.error e))
    | .ok result =>
      (match Sql.droppedTables? engine request.sql, Sql.renamedTables? engine request.sql with
        | some dropped, some renamed => Task.change (onWorkspace (followBatch dropped renamed))
        | _, _ => reconcile).bind fun _ => .done (some (.ok (.result result)))

theorem executeSql_task (request : SqlRequest) (confirmed : Bool) :
    (Action.executeSql request confirmed).task =
      .act id fun c => executing request confirmed c.session.engine := by
  change returning _ (executeSql request confirmed) = _
  rw [executeSql_eq]
  refine congrArg (Task.act id) (funext fun c => ?_)
  change ((storeExecuteSql request c.session.engine confirmed).bind _).bind _ = _
  rw [Task.bind_bind]
  refine congrArg _ (funext fun outcome => ?_)
  cases outcome with
  | error e => rfl
  | ok result => exact Task.bind_bind (followSql request c.session.engine) _ _

theorem Follows.executing {request : SqlRequest} {confirmed : Bool} {engine : Option Engine}
    {statements : List Sql.Statement} (parsed : Sql.batch? engine request.sql = some statements) :
    Follows (followBatch (Sql.drops statements) (Sql.renames statements))
      (Console.executing request confirmed engine) := by
  refine .behind (.storeExecuteSql request engine confirmed) fun outcome => ?_
  cases outcome with
  | error e => exact nofun
  | ok result =>
    dsimp only
    rw [Sql.droppedTables?, Sql.renamedTables?, parsed]
    exact Or.inr ⟨fun _ => rfl, fun _ => ⟨_, rfl⟩⟩

namespace Course

variable {E : Type} (r : Course E)

def table (n : Nat) : Option String :=
  (r.console n).workspace.table

/-- Between the two points nobody but the one action selects another table. -/
def Undisturbed (begun opened n : Nat) : Prop :=
  ∀ m, opened ≤ m → m < n → (∀ t, ¬ r.Runs m begun.repr t) → r.table (m + 1) = r.table m

variable {r} {begun opened n : Nat} {request : SqlRequest} {confirmed : Bool}

/-- How far the execution of a batch has got with the selection. -/
inductive Carries (r : Course E) (statements : List Sql.Statement) (opened n : Nat) :
    ConsoleTask (Option (Except Error Returned)) → Prop
  | before {t : ConsoleTask (Option (Except Error Returned))}
    (follows : Follows (followBatch (Sql.drops statements) (Sql.renames statements)) t)
    (same : r.table n = r.table opened) : Carries r statements opened n t
  | behind (outcome : Option (Except Error Returned))
    (carried : r.table n =
      followed (Sql.renames statements) (spared (Sql.drops statements) (r.table opened))) :
    Carries r statements opened n (.done outcome)

/-- A visit to the execution carries the selection as far as it gets. -/
theorem Carries.visit {statements : List Sql.Statement} {place waits : Nat} {name : String}
    {t t' : ConsoleTask (Option (Except Error Returned))}
    (happens : r.happens n = .visit place waits)
    (found : (r.pool n).threads[place]? = some (name, .ready t))
    (ran : t.advanceThrough waits (r.console n) = t'.advanceThrough waits (r.console n))
    (carries : r.Carries statements opened n t') :
    r.Carries statements opened (n + 1) (t.advanceThrough waits (r.console n)).2 := by
  have after : (r.console (n + 1)).workspace =
      (t.advanceThrough waits (r.console n)).1.workspace := by
    rw [console_succ happens found]
  rw [ran] at after ⊢
  cases carries with
  | before follows same =>
    rcases follows.advanceThrough waits (r.console n) with ⟨follows', kept⟩ | ⟨⟨_, ended⟩, changed⟩
    · refine .before follows' ?_
      rw [table, after, kept]
      exact same
    · rw [ended]
      refine .behind _ ?_
      rw [table, after, changed, table_followBatch, ← same, table]
  | behind outcome carried =>
    rw [Task.advanceThrough_done] at after ⊢
    refine .behind outcome ?_
    rw [table, after]
    exact carried

/-- What is left of running SQL: all of it, or what is behind its first visit, at which the engine
is looked up. -/
def Underway (r : Course E) (begun : Nat) (request : SqlRequest) (confirmed : Bool) (n : Nat)
    (t : ConsoleTask (Option (Except Error Returned))) : Prop :=
  t = (Action.executeSql request confirmed).task ∨
    ∃ opened, begun < opened ∧ opened < n ∧
      r.Runs opened begun.repr (Action.executeSql request confirmed).task ∧
      ∀ statements, Sql.batch? (r.console opened).session.engine request.sql = some statements →
        r.Undisturbed begun opened n → r.Carries statements opened n t

theorem Underway.visit {place waits : Nat} {t : ConsoleTask (Option (Except Error Returned))}
    (lt : begun < n) (happens : r.happens n = .visit place waits)
    (found : (r.pool n).threads[place]? = some (begun.repr, .ready t))
    (underway : r.Underway begun request confirmed n t) :
    r.Underway begun request confirmed (n + 1) (t.advanceThrough waits (r.console n)).2 := by
  rcases underway with rfl | ⟨opened, behind, before, runs, carries⟩
  · refine Or.inr ⟨n, lt, Nat.lt_succ_self n, ⟨place, waits, happens, found⟩, ?_⟩
    intro statements parsed _
    have looked : (Action.executeSql request confirmed).task.advanceThrough waits (r.console n) =
        (executing request confirmed (r.console n).session.engine).advanceThrough waits
          (r.console n) := by
      rw [executeSql_task, Task.advanceThrough_act]
      rfl
    have carries : r.Carries statements n n
        (executing request confirmed (r.console n).session.engine) :=
      .before (.executing parsed) rfl
    exact carries.visit happens found looked
  · refine Or.inr ⟨opened, behind, Nat.lt_succ_of_lt before, runs, ?_⟩
    intro statements parsed undisturbed
    exact (carries statements parsed fun m le lt => undisturbed m le (Nat.lt_succ_of_lt lt)).visit
      happens found rfl

theorem Underway.others {t : ConsoleTask (Option (Except Error Returned))}
    (others : ∀ t', ¬ r.Runs n begun.repr t') (underway : r.Underway begun request confirmed n t) :
    r.Underway begun request confirmed (n + 1) t := by
  rcases underway with rfl | ⟨opened, behind, before, runs, carries⟩
  · exact Or.inl rfl
  · refine Or.inr ⟨opened, behind, Nat.lt_succ_of_lt before, runs, ?_⟩
    intro statements parsed undisturbed
    have quiet := undisturbed n (Nat.le_of_lt before) (Nat.lt_succ_self n) others
    cases carries statements parsed fun m le lt => undisturbed m le (Nat.lt_succ_of_lt lt) with
    | before follows same => exact .before follows (quiet.trans same)
    | behind outcome carried => exact .behind outcome (quiet.trans carried)

theorem Underway.called {question : Console → Request}
    {next : Reply → ConsoleTask (Option (Except Error Returned))} (reply : Reply)
    (underway : r.Underway begun request confirmed n (.call question next)) :
    r.Underway begun request confirmed n (next reply) := by
  rcases underway with same | ⟨opened, behind, before, runs, carries⟩
  · rw [executeSql_task] at same
    cases same
  · refine Or.inr ⟨opened, behind, before, runs, fun statements parsed undisturbed => ?_⟩
    cases carries statements parsed undisturbed with
    | before follows same => exact .before (follows reply) same

theorem Underway.slept {time : Nat} {next : ConsoleTask (Option (Except Error Returned))}
    (underway : r.Underway begun request confirmed n (.sleep time next)) :
    r.Underway begun request confirmed n next := by
  rcases underway with same | ⟨opened, behind, before, runs, carries⟩
  · rw [executeSql_task] at same
    cases same
  · refine Or.inr ⟨opened, behind, before, runs, fun statements parsed undisturbed => ?_⟩
    cases carries statements parsed undisturbed with
    | before follows same => exact .before follows same

theorem underway_of_executeSql (begins : r.happens begun = .begin (.executeSql request confirmed))
    (lt : begun < n) :
    (r.pool n).AllLeft fun name t =>
      name = begun.repr → r.Underway begun request confirmed n t := by
  refine tracked begins (Or.inl rfl) ?_ ?_ ?_ ?_ lt
  · exact fun n place waits t lt happens found => Underway.visit lt happens found
  · exact fun n t _ others => Underway.others others
  · exact fun n question next reply => Underway.called reply
  · exact fun n time next => Underway.slept

/-- Behind a batch that can be read, that succeeds, and during which nobody else selects a table,
the selected table is the one that was selected before, after the drops of all statements and then
the renames of all statements. It is the one that the statements leave selected, one after the
other, just if these end the selection exactly where a drop names the table that was selected
before. -/
theorem carried_in_order_iff (begins : r.happens begun = .begin (.executeSql request confirmed))
    {x : Returned} (returned : r.returned? begun n = some (.ok x)) :
    ∃ opened, begun < opened ∧ opened < n ∧
      r.Runs opened begun.repr (Action.executeSql request confirmed).task ∧
      ∀ statements, Sql.batch? (r.console opened).session.engine request.sql = some statements →
        r.Undisturbed begun opened n →
        r.table n =
          followed (Sql.renames statements) (spared (Sql.drops statements) (r.table opened)) ∧
        (r.table n = Sql.carriedThrough statements (r.table opened) ↔
          (Sql.carriedThrough statements (r.table opened) = none ↔
            ∀ table, r.table opened = some table → table ∈ Sql.drops statements)) := by
  have left := underway_of_executeSql begins (lt_of_returned? returned) begun.repr _
    (Pool.mem_of_result? returned) rfl
  rcases left with same | ⟨opened, behind, before, runs, carries⟩
  · rw [executeSql_task] at same
    cases same
  · refine ⟨opened, behind, before, runs, fun statements parsed undisturbed => ?_⟩
    cases carries statements parsed undisturbed with
    | before follows same => exact absurd rfl (follows x)
    | behind outcome carried =>
      refine ⟨carried, ?_⟩
      rw [carried]
      exact Sql.followed_spared_eq_carriedThrough_iff statements (r.table opened)

/-! ### A batch that runs by itself -/

/-- A backend that runs whatever it is told to. -/
def willingBackend (_ : Unit) (_ : Request) : Unit × Answer Reply :=
  ((), .now (.answered ⟨200⟩ (some "\x7b\"success\":true,\"data\":\x7b\"message\":\"OK\"\x7d\x7d")))

/-- A batch is run, with nothing else going on, while a table is selected. -/
def batchRun (sql : String) : Course Unit where
  submit := willingBackend
  base := ⟨"http", "", none, some (.named "db"), none, .segments [], none, none⟩
  timeout := none
  tokens := .memory none
  settings := ⟨0, 0, 0, 0⟩
  world := ()
  happens
    | 0 => .select (·.selectTable (some "a"))
    | 1 => .begin (.executeSql ⟨sql⟩ true)
    | 2 => .visit 0 0
    | 3 => .visit 0 1
    | _ => .tidy

theorem exists_runs_of_canRun {place waits : Nat} {name : String}
    (happens : r.happens n = .visit place waits)
    (there : (r.pool n).threads[place]?.any fun q =>
      q.1 == name && Pool.canRun (r.console n) q.2) : ∃ t, r.Runs n name t :=
  (Pool.exists_ready_of_canRun there).imp fun _ found => ⟨place, waits, happens, found⟩

/-- Nobody selects a table while the batch is run. -/
theorem undisturbed_batchRun {sql : String} {opened : Nat} (lt : 1 < opened)
    (first : (batchRun sql).table 3 = (batchRun sql).table 2)
    (last : ((batchRun sql).pool 3).threads[0]?.any fun q =>
      q.1 == Nat.repr 1 && Pool.canRun ((batchRun sql).console 3) q.2) :
    (batchRun sql).Undisturbed 1 opened 4 := by
  intro m le before others
  obtain rfl | rfl : m = 2 ∨ m = 3 := by omega
  · exact first
  · obtain ⟨t, runs⟩ := exists_runs_of_canRun rfl last
    exact absurd runs (others t)

/-- A table is dropped, and the selected one is given its name. -/
def droppedThenRenamed : String :=
  "DROP TABLE b; ALTER TABLE a RENAME TO b"

/-- A table takes the name of one that the batch has dropped. -/
theorem batchRun_carries :
    (batchRun droppedThenRenamed).happens 1 = .begin (.executeSql ⟨droppedThenRenamed⟩ true) ∧
      (∃ x, (batchRun droppedThenRenamed).returned? 1 4 = some (.ok x)) ∧
      ∃ statements, Sql.batch? none droppedThenRenamed = some statements ∧
        Sql.carriedThrough statements (some "a") = some "b" ∧
        (batchRun droppedThenRenamed).table 4 = some "b" := by
  have begins : (batchRun droppedThenRenamed).happens 1 =
      .begin (.executeSql ⟨droppedThenRenamed⟩ true) := rfl
  have succeeded : ((batchRun droppedThenRenamed).returned? 1 4).any (·.toOption.isSome) := by
    decide +kernel
  have carried : (Sql.batch? none droppedThenRenamed).map (Sql.carriedThrough · (some "a")) =
      some (some "b") := by decide +kernel
  have drops : (Sql.batch? none droppedThenRenamed).map Sql.drops = some ["b"] := by
    decide +kernel
  have selected : ∀ m ∈ [2, 3],
      (batchRun droppedThenRenamed).table m = some "a" ∧
      ((batchRun droppedThenRenamed).console m).session.engine = none := by
    decide +kernel
  obtain ⟨x, returned⟩ := exists_returned_of_any succeeded
  obtain ⟨statements, parsed, same⟩ := Option.map_eq_some_iff.mp carried
  refine ⟨begins, ⟨x, returned⟩, statements, parsed, same, ?_⟩
  obtain ⟨opened, behind, before, runs, carries⟩ := carried_in_order_iff begins returned
  have at_ : opened ∈ [2, 3] := by
    simp only [List.mem_cons, List.not_mem_nil, or_false]
    omega
  obtain ⟨table, engine⟩ := selected opened at_
  have undisturbed : (batchRun droppedThenRenamed).Undisturbed 1 opened 4 :=
    undisturbed_batchRun behind (by decide +kernel) (by decide +kernel)
  have iff := (carries statements (engine ▸ parsed) undisturbed).2
  rw [parsed, Option.map_some, Option.some.injEq] at drops
  rw [table, same, drops] at iff
  exact iff.mpr (iff_of_false nofun fun named => absurd (named "a" rfl) (by decide))

/-- The selected table is renamed and then dropped. -/
def renamedThenDropped : String :=
  "ALTER TABLE a RENAME TO b; DROP TABLE b"

/-- A table that is renamed and then dropped stays selected. -/
theorem renamed_then_dropped_selected :
    (batchRun renamedThenDropped).happens 1 = .begin (.executeSql ⟨renamedThenDropped⟩ true) ∧
      (∃ x, (batchRun renamedThenDropped).returned? 1 4 = some (.ok x)) ∧
      (batchRun renamedThenDropped).Runs 2 (Nat.repr 1)
        (Action.executeSql ⟨renamedThenDropped⟩ true).task ∧
      (batchRun renamedThenDropped).Undisturbed 1 2 4 ∧
      ∃ statements, Sql.batch? ((batchRun renamedThenDropped).console 2).session.engine
          renamedThenDropped = some statements ∧
        Sql.carriedThrough statements ((batchRun renamedThenDropped).table 2) = none ∧
        (batchRun renamedThenDropped).table 4 = some "b" := by
  have succeeded : ((batchRun renamedThenDropped).returned? 1 4).any (·.toOption.isSome) := by
    decide +kernel
  have carried : (Sql.batch? ((batchRun renamedThenDropped).console 2).session.engine
      renamedThenDropped).map
        (Sql.carriedThrough · ((batchRun renamedThenDropped).table 2)) = some none := by
    decide +kernel
  obtain ⟨statements, parsed, same⟩ := Option.map_eq_some_iff.mp carried
  exact ⟨rfl, exists_returned_of_any succeeded, ⟨0, 0, rfl, rfl⟩,
    undisturbed_batchRun (by decide) (by decide +kernel) (by decide +kernel), statements, parsed,
    same, by decide +kernel⟩

end Course

end Console

end DbConsole

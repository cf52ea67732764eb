import DbConsole.Console.Changes
import DbConsole.Console.Run
import DbConsole.Proofs.Task.Turn

/-!
Reads and changes of the store side by side, before any backend, in any order of their turns.
-/
set_option autoImplicit false

namespace DbConsole.Console

/-! ### Operations -/

inductive Returned where
  | payload (payload : Payload)
  | tableSchema (columns : List Column) (indexes : List Index) (foreignKeys : List ForeignKey)
  | rowId (id : RowId)
  | notice (notice : TableNotice)
  | receipt (receipt : Receipt)
  | result (result : SqlResult)

/-- A read of the store: of one key, or of what a table's keys say together. -/
inductive Read where
  | one (key : Key) (policy : FetchPolicy)
  | tableSchema (table : String) (policy : FetchPolicy)
  | rowId (table : String) (row : Row)

inductive Change where
  | createTable (spec : TableSpec)
  | alterTable (table : String) (change : Alteration) (confirmed : Bool)
  | dropTable (table : String) (confirmed : Bool)
  | insertRow (table : String) (row : Row)
  | updateRow (table : String) (id : RowId) (row : Row)
  | deleteRow (table : String) (id : RowId) (confirmed : Bool)
  | executeSql (request : SqlRequest) (engine : Option Engine) (confirmed : Bool)

inductive Operation where
  | read (read : Read)
  | change (change : Change)

theorem exists_returned_of_any {α : Type} {outcome : Option (Except Error α)}
    (succeeded : outcome.any (·.toOption.isSome)) :
    ∃ returned, outcome = some (.ok returned) := by
  cases outcome with
  | none => cases succeeded
  | some outcome =>
    cases outcome with
    | error e => cases succeeded
    | ok returned => exact ⟨returned, rfl⟩

theorem exists_error_of_any {α : Type} {outcome : Option (Except Error α)}
    (failed : outcome.any (·.toOption.isNone)) : ∃ e, outcome = some (.error e) := by
  cases outcome with
  | none => cases failed
  | some outcome =>
    cases outcome with
    | error e => exact ⟨e, rfl⟩
    | ok returned => cases failed

/-- Goes on with the result as another one. -/
def returning {α : Type} (wrap : α → Returned) (t : ConsoleTask (Except Error α)) :
    ConsoleTask (Option (Except Error Returned)) :=
  t.bind fun r => .done (some (r.map wrap))

def Read.task : Read → ConsoleTask (Option (Except Error Returned))
  | .one .tables policy => returning (.payload ∘ .tables) (tables policy)
  | .one .databaseInfo policy => returning (.payload ∘ .database) (databaseInfo policy)
  | .one (.columns table) policy => returning (.payload ∘ .columns) (columns table policy)
  | .one (.indexes table) policy => returning (.payload ∘ .indexes) (indexes table policy)
  | .one (.foreignKeys table) policy =>
    returning (.payload ∘ .foreignKeys) (foreignKeys table policy)
  | .one (.rows table query) policy => returning (.payload ∘ .page) (rows table query policy)
  | .tableSchema table policy =>
    returning (fun s => .tableSchema s.1 s.2.1 s.2.2)
      (Console.tableSchema table policy)
  | .rowId table row => returning .rowId (rowIdFor table row)

def Change.task : Change → ConsoleTask (Option (Except Error Returned))
  | .createTable spec => returning .notice (Console.createTable spec)
  | .alterTable table change confirmed =>
    returning .receipt (storeAlterTable table change confirmed)
  | .dropTable table confirmed => returning .notice (storeDropTable table confirmed)
  | .insertRow table row => returning .receipt (Console.insertRow table row)
  | .updateRow table id row => returning .receipt (Console.updateRow table id row)
  | .deleteRow table id confirmed => returning .receipt (Console.deleteRow table id confirmed)
  | .executeSql request engine confirmed =>
    returning .result (storeExecuteSql request engine confirmed)

/-- What the change marks when it has succeeded. -/
def Change.plan : Change → Plan
  | .createTable _ => .createTable
  | .alterTable table change _ => .alterTable table change
  | .dropTable table _ => .dropTable table
  | .insertRow table _ => .rowChange table
  | .updateRow table _ _ => .rowChange table
  | .deleteRow table _ _ => .rowChange table
  | .executeSql request engine _ => .ofScope (Sql.scope engine request.sql)

def Operation.task : Operation → ConsoleTask (Option (Except Error Returned))
  | .read op => op.task
  | .change op => op.task

/-- The read reads the key. -/
def Read.Reads (key : Key) : Read → Prop
  | .one k _ => k = key
  | .tableSchema table _ => key ∈ [.columns table, .indexes table, .foreignKeys table]
  | .rowId table _ => key = .columns table

/-- What the read returned is what the payload of the key says. -/
def Read.Shows (key : Key) (payload : Payload) : Read → Returned → Prop
  | .one _ _, returned => returned = .payload payload
  | .tableSchema table _, .tableSchema cs is fs =>
    (key = .columns table → payload = .columns cs) ∧
      (key = .indexes table → payload = .indexes is) ∧
        (key = .foreignKeys table → payload = .foreignKeys fs)
  | .rowId table row, .rowId id =>
    ∃ cs, payload = .columns cs ∧ DbConsole.rowId table row cs = .ok id
  | _, _ => False

/-! ### Fetches -/

/-- The task that a read has started for a fetch. -/
def flying {R : Type} (settings : CacheSettings) (f : Flight Unit) : ConsoleTask (Option R) :=
  (Cache.fly settings f (fetchPayload f.key)).bind fun _ => .done none

/-- Nothing else is started by the console, and only for fetches that have departed. -/
theorem exists_flying_of_started {E R : Type} {submit : E → Request → E × Answer Reply}
    {c : Console} {t : ConsoleTask (Option R)}
    (among : t ∈ ((systemBefore submit R).started c).1) :
    ∃ f ∈ c.cache.departures, ∃ settings, t = flying settings f := by
  obtain ⟨_, started, rfl⟩ := List.mem_map.mp among
  obtain ⟨f, departs, rfl⟩ := List.mem_map.mp started
  exact ⟨f, departs, _, rfl⟩

/-! ### Interleavings -/

/-- What happens next to the pool of operations. -/
inductive Move (E : Type) where
  | start (operation : Operation)
  | turn (place steps : Nat) (through : Bool)
  | release (gate : String)
  | wake (time : Nat)
  | cancel (name : String)
  | tidy
  | collect (now : Nat)
  | clear
  /-- Something about the console changes that is not in the cache. -/
  | drift (change : Console → Console)
  /-- The outside changes by itself. -/
  | outside (change : E → E)

/-- A pool of operations, each with the number of the move that started it for its name. -/
abbrev Operations (E : Type) : Type :=
  Pool Console E Request Reply (Except Error Returned)

def Move.apply {E : Type} (submit : E → Request → E × Answer Reply) (number : Nat) :
    Move E → Operations E → Operations E
  | .start operation, p => p.spawn number.repr operation.task
  | .turn place steps through, p => p.turn (systemBefore submit _) place steps through
  | .release gate, p => p.release gate
  | .wake time, p => p.wake time
  | .cancel name, p => p.cancel name
  | .tidy, p => p.tidy
  | .collect now, p =>
    { p with state := { p.state with cache := p.state.cache.collect now } }
  | .clear, p => { p with state := { p.state with cache := p.state.cache.clear } }
  | .drift change, p => { p with state := { change p.state with cache := p.state.cache } }
  | .outside change, p => { p with world := change p.world }

/-- Moves without end, from a console with nothing cached before a backend that answers as it
likes. -/
structure Interleaving (E : Type) where
  submit : E → Request → E × Answer Reply
  console : Console
  world : E
  settings : CacheSettings
  move : Nat → Move E

namespace Interleaving

variable {E : Type} (r : Interleaving E)

def pool : Nat → Operations E
  | 0 => .init { r.console with cache := .empty r.settings } r.world
  | n + 1 => (r.move n).apply r.submit n (pool n)

theorem pool_succ (n : Nat) : r.pool (n + 1) = (r.move n).apply r.submit n (r.pool n) := rfl

/-- What the operation that was started by the move has returned. -/
def returned? (started n : Nat) : Option (Except Error Returned) :=
  (r.pool n).result? started.repr

/-- The request that is sent in the move, with the reply to it. -/
def exchange? (n : Nat) : Option (Request × Reply) :=
  match r.move n with
  | .turn place steps through =>
    (r.pool n).heard? (systemBefore r.submit _) place steps through
  | _ => none

end Interleaving

end DbConsole.Console

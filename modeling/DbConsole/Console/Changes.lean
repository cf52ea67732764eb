import DbConsole.Console.Reads
import DbConsole.Row.Check
import DbConsole.Sql.Batch
import DbConsole.Sql.Danger
import DbConsole.Sql.Kind

/-!
Changes. Each goes straight to the backend; once it has succeeded, the cached reads that it can have
touched are no longer trusted. What destroys data wants to be confirmed.
-/
set_option autoImplicit false

namespace DbConsole.Console

/-- Marks what a change has touched. -/
def applyPlan (plan : Plan) : ConsoleTask Unit := do
  Task.yield
  Task.change fun c => { c with cache := c.cache.apply plan }

/-- Ends a change: a success marks what it has touched. -/
def concluding {α : Type} (plan : Plan) (outcome : Except Error α) :
    ConsoleTask (Except Error α) := do
  match outcome with
  | .ok a =>
    applyPlan plan
    return .ok a
  | .error e => return .error e

/-- Sends a message to an endpoint, if there is one. -/
def deliver (α : Type) {β : Type} [Wire α] [Wire β] (method : Method)
    (endpoint : Except Error Endpoint) (message : β) : ConsoleTask (Except Error α) := do
  match endpoint with
  | .ok e => sendMessage α method e message
  | .error e => return .error e

/-- Sends a delete to an endpoint, if there is one. -/
def deleteAt (α : Type) [Wire α] (endpoint : Except Error Endpoint) :
    ConsoleTask (Except Error α) := do
  match endpoint with
  | .ok e => send α .delete e none
  | .error e => return .error e

/-! ### Requests -/

def sendCreateTable (spec : TableSpec) : ConsoleTask (Except Error TableNotice) := do
  match spec.validate with
  | .error e => return .error e
  | .ok () => sendMessage TableNotice .post (.ofSegments ["schema", "table"]) spec

def sendAlterTable (table : String) (change : Alteration) : ConsoleTask (Except Error Receipt) := do
  match change.validate with
  | .error e => return .error e
  | .ok () => deliver Receipt .put (schemaOf table) change

def sendDropTable (table : String) : ConsoleTask (Except Error TableNotice) :=
  deleteAt TableNotice (schemaOf table)

def sendInsertRow (table : String) (row : Row) : ConsoleTask (Except Error Receipt) :=
  deliver Receipt .post (rowsOf table) row

def sendUpdateRow (table : String) (id : RowId) (row : Row) : ConsoleTask (Except Error Receipt) :=
  deliver Receipt .put ((rowsOf table).map (·.segment id.text)) row

def sendDeleteRow (table : String) (id : RowId) : ConsoleTask (Except Error Receipt) :=
  deleteAt Receipt ((rowsOf table).map (·.segment id.text))

def sendSql (request : SqlRequest) : ConsoleTask (Except Error SqlResult) := do
  match request.validate with
  | .error e => return .error e
  | .ok () => sendMessage SqlResult .post (.ofSegments ["query"]) request

/-! ### Changes that the cache takes notice of -/

def createTable (spec : TableSpec) : ConsoleTask (Except Error TableNotice) := do
  concluding .createTable (← sendCreateTable spec)

def storeAlterTable (table : String) (change : Alteration) (confirmed : Bool) :
    ConsoleTask (Except Error Receipt) := do
  if change.isDestructive && !confirmed then
    return .error (.unconfirmed change.operation
      "This will permanently delete the column and all its data")
  else concluding (.alterTable table change) (← sendAlterTable table change)

def storeDropTable (table : String) (confirmed : Bool) :
    ConsoleTask (Except Error TableNotice) := do
  if confirmed then concluding (.dropTable table) (← sendDropTable table)
  else
    return .error (.unconfirmed "DROP TABLE"
      "This will permanently delete the table and all its data")

def insertRow (table : String) (row : Row) : ConsoleTask (Except Error Receipt) := do
  match ← columns table .cached with
  | .error e => return .error e
  | .ok cs =>
    match checkRow row cs .insert with
    | .error e => return .error e
    | .ok () => concluding (.rowChange table) (← sendInsertRow table row)

def updateRow (table : String) (id : RowId) (row : Row) : ConsoleTask (Except Error Receipt) := do
  match ← keyedColumns table with
  | .error e => return .error e
  | .ok cs =>
    match checkRow row cs .update with
    | .error e => return .error e
    | .ok () => concluding (.rowChange table) (← sendUpdateRow table id row)

def deleteRow (table : String) (id : RowId) (confirmed : Bool) :
    ConsoleTask (Except Error Receipt) := do
  if confirmed then
    match ← keyedColumns table with
    | .error e => return .error e
    | .ok _ => concluding (.rowChange table) (← sendDeleteRow table id)
  else return .error (.unconfirmed "DELETE ROW" "This will permanently delete the row")

/-- Runs SQL, read in the dialect of the engine. -/
def storeExecuteSql (request : SqlRequest) (engine : Option Engine) (confirmed : Bool) :
    ConsoleTask (Except Error SqlResult) := do
  match request.validate with
  | .error e => return .error e
  | .ok () =>
    match if confirmed then none else Sql.danger? engine request.sql with
    | some danger => return .error danger.error
    | none => concluding (.ofScope (Sql.scope engine request.sql)) (← sendSql request)

/-! ### Changes that the selection follows -/

def dropTable (table : String) (confirmed : Bool) : ConsoleTask (Except Error TableNotice) := do
  match ← storeDropTable table confirmed with
  | .error e => return .error e
  | .ok notice =>
    Task.change (onWorkspace (·.tableDropped table))
    return .ok notice

def alterTable (table : String) (change : Alteration) (confirmed : Bool) :
    ConsoleTask (Except Error Receipt) := do
  match ← storeAlterTable table change confirmed with
  | .error e => return .error e
  | .ok receipt =>
    match change.renamedTo? with
    | some newName => Task.change (onWorkspace (·.tableRenamed table newName))
    | none => pure ()
    return .ok receipt

/-- Drops the selection if the backend no longer lists its table. -/
def reconcile : ConsoleTask Unit := do
  match ← Task.look (·.workspace.table) with
  | none => pure ()
  | some table =>
    match ← tables .fresh with
    | .error _ => pure ()
    | .ok ts =>
      if ts.any (·.name == table) then pure ()
      else Task.change (onWorkspace (·.tableDropped table))

/-- The view after a batch that has dropped and renamed tables: first the drops, then the
renames. -/
def followBatch (dropped : List String) (renamed : List (String × String)) (w : Workspace) :
    Workspace :=
  renamed.foldl (fun w p => w.tableRenamed p.1 p.2) (dropped.foldl Workspace.tableDropped w)

/-- Runs SQL in the dialect of the session. Where the text cannot be read, the selection is checked
against a new list of tables. -/
def executeSql (request : SqlRequest) (confirmed : Bool) :
    ConsoleTask (Except Error SqlResult) := do
  let engine ← Task.look (·.session.engine)
  match ← storeExecuteSql request engine confirmed with
  | .error e => return .error e
  | .ok result =>
    match Sql.droppedTables? engine request.sql, Sql.renamedTables? engine request.sql with
    | some dropped, some renamed => Task.change (onWorkspace (followBatch dropped renamed))
    | _, _ => reconcile
    return .ok result

end DbConsole.Console

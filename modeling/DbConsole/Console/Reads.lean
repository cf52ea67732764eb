import DbConsole.Console.Basic
import DbConsole.Row.Key
import DbConsole.Wire.Listing
import DbConsole.Wire.Schema

/-!
Reads, each through the cache, and the requests that fill it.
-/
set_option autoImplicit false

namespace DbConsole.Console

/-- The endpoint below which a table's data or its schema stands. -/
def tableEndpoint (start : List String) (table : String) : Except Error Endpoint := do
  requireText "Table name" table
  return (Endpoint.ofSegments start).segment table

def schemaOf (table : String) : Except Error Endpoint :=
  tableEndpoint ["schema", "table"] table

def rowsOf (table : String) : Except Error Endpoint :=
  tableEndpoint ["table"] table

/-- Gets what stands at an endpoint, if there is one. -/
def get (α : Type) [Wire α] (endpoint : Except Error Endpoint) : ConsoleTask (Except Error α) := do
  match endpoint with
  | .ok e => send α .get e none
  | .error e => return .error e

/-- One page of rows from the backend. -/
def fetchPage (table : String) (query : PageQuery) : ConsoleTask (Except Error Page) := do
  match query.validate with
  | .error e => return .error e
  | .ok () => get Page ((rowsOf table).map (·.withQuery query.pairs))

/-- What the backend holds under a key. -/
def fetchPayload : Key → ConsoleTask (Except Error Payload)
  | .tables => do
    let r ← send (Listed Table) .get (.ofSegments ["schema", "tables"]) none
    return r.map fun l => .tables l.items
  | .databaseInfo => do
    let r ← send DatabaseSummary .get (.ofSegments ["database", "info"]) none
    return r.map .database
  | .columns table => do
    let r ← get (Listed Column) (schemaOf table)
    return r.map fun l => .columns l.items
  | .indexes table => do
    let r ← get (Listed Index) ((schemaOf table).map (·.segment "indexes"))
    return r.map fun l => .indexes l.items
  | .foreignKeys table => do
    let r ← get (Listed ForeignKey) ((schemaOf table).map (·.segment "foreign-keys"))
    return r.map fun l => .foreignKeys l.items
  | .rows table query => do
    let r ← fetchPage table query
    return r.map .page

/-- The fetches that reads have started since this was last asked, as tasks. -/
def startedFetches (c : Console) : List (ConsoleTask Unit) × Console :=
  let (flights, cache) := c.cache.takeDepartures
  (flights.map fun f => Cache.fly cache.settings f (fetchPayload f.key), { c with cache := cache })

def tables (policy : FetchPolicy) : ConsoleTask (Except Error (List Table)) :=
  Cache.fetch .tables policy () Payload.tables?

def databaseInfo (policy : FetchPolicy) : ConsoleTask (Except Error DatabaseSummary) :=
  Cache.fetch .databaseInfo policy () Payload.database?

def columns (table : String) (policy : FetchPolicy) : ConsoleTask (Except Error (List Column)) :=
  Cache.fetch (.columns table) policy () Payload.columns?

def indexes (table : String) (policy : FetchPolicy) : ConsoleTask (Except Error (List Index)) :=
  Cache.fetch (.indexes table) policy () Payload.indexes?

def foreignKeys (table : String) (policy : FetchPolicy) :
    ConsoleTask (Except Error (List ForeignKey)) :=
  Cache.fetch (.foreignKeys table) policy () Payload.foreignKeys?

/-- Columns, indexes and foreign keys of a table, read side by side. The first failure ends the
wait; what has been started comes to its end all the same. -/
def tableSchema (table : String) (policy : FetchPolicy) :
    ConsoleTask (Except Error (List Column × List Index × List ForeignKey)) := do
  let columns ← Cache.startRead (.columns table) policy ()
  let indexes ← Cache.startRead (.indexes table) policy ()
  let foreignKeys ← Cache.startRead (.foreignKeys table) policy ()
  Task.until? (fun c : Console =>
    Cache.both? (Cache.outcome? (.columns table) Payload.columns? columns c)
      (Cache.both? (Cache.outcome? (.indexes table) Payload.indexes? indexes c)
        (Cache.outcome? (.foreignKeys table) Payload.foreignKeys? foreignKeys c)))
    (.error (.transport (.other "")))

def rows (table : String) (query : PageQuery) (policy : FetchPolicy) :
    ConsoleTask (Except Error Page) := do
  match query.validate with
  | .error e => return .error e
  | .ok () => Cache.fetch (.rows table query) policy () Payload.page?

/-- The key of a row of the table. -/
def rowIdFor (table : String) (row : Row) : ConsoleTask (Except Error RowId) := do
  match ← columns table .cached with
  | .error e => return .error e
  | .ok cs => return rowId table row cs

/-- The columns of a table whose rows have keys. -/
def keyedColumns (table : String) : ConsoleTask (Except Error (List Column)) := do
  match ← columns table .cached with
  | .error e => return .error e
  | .ok cs =>
    if (primaryKey? cs).isNone then return .error (.noPrimaryKey table) else return .ok cs

/-- The rows of the selected table, by the paging that is set. There are none where nothing is
selected, and where the view has changed while they were loaded. -/
def selectedRows (policy : FetchPolicy) : ConsoleTask (Except Error (Option Page)) := do
  let ticket ← Task.look (·.workspace.ticket)
  match ticket.table with
  | none => return .ok none
  | some table =>
    match ← rows table ticket.query policy with
    | .error e => return .error e
    | .ok page =>
      if ← Task.look (·.workspace.isCurrent ticket) then return .ok (some page)
      else return .ok none

end DbConsole.Console

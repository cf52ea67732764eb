import DbConsole.Cli.Config
import DbConsole.Console.Changes
import DbConsole.Console.Session
import DbConsole.Grid
import DbConsole.Row.Key
import DbConsole.Wire.Connection

/-!
Commands of the command line, run on the console, and what they show.
-/
set_option autoImplicit false

namespace DbConsole

namespace Command

/-- A command's argument that is a document. -/
def readArgument (α : Type) [Wire α] (what text : String) : Except Error α :=
  (Wire.decode α text).mapError fun fault => .invalid (.badArgument what fault)

def connectedText (verb database : String) (engine : Engine) : String :=
  verb ++ " to " ++ database ++ " (" ++ engine.displayName ++ ")\n"

def rowsAffected (message count : String) : String :=
  message ++ " (" ++ count ++ " rows affected)\n"

def receiptText (r : Receipt) : String :=
  rowsAffected r.message (toString r.rowsAffected)

def sessionText (format : Format) (s : Session) : String :=
  if format = .json then s.toJson.pretty
  else
    match s.database, s.engine with
    | some database, some engine => connectedText s.status.name database engine
    | _, _ => s.status.name ++ "\n"

def summaryText (format : Format) (d : DatabaseSummary) : String :=
  if format = .json then (Wire.toJson d).pretty
  else
    let property (name : String) (value : Cell) : Row :=
      Dict.ofList [("property", .text name), ("value", value)]
    Grid.render format ["property", "value"]
      [property "database" (.text d.database), property "type" (.text d.engine),
        property "version" (.text d.version),
        property "tables" (.number (.whole d.tableCount.toInt))]

def tablesText (format : Format) (ts : List Table) : String :=
  if format = .json then (Wire.toJson ts).pretty
  else Grid.render format (Grid.ofTables ts).1 (Grid.ofTables ts).2

def foreignKeyText (k : ForeignKey) : String :=
  k.constraint ++ ": " ++ k.column ++ " -> " ++ k.foreignTable ++ "." ++ k.foreignColumn ++ "\n"

def schemaText (format : Format) (table : String) (columns : List Column) (indexes : List Index)
    (foreignKeys : List ForeignKey) : String :=
  if format = .json then
    (Json.object [("columns", Wire.toJson columns), ("foreign_keys", Wire.toJson foreignKeys),
      ("indexes", Wire.toJson indexes), ("table", .string table)]).canonical.pretty
  else
    let columnGrid := Grid.render format (Grid.ofColumns columns).1 (Grid.ofColumns columns).2
    let indexGrid := Grid.render format (Grid.ofIndexes indexes).1 (Grid.ofIndexes indexes).2
    columnGrid ++ (if indexes.isEmpty then "" else "\n" ++ indexGrid) ++
      String.join (foreignKeys.map foreignKeyText)

def pageText (format : Format) (columns : List String) (p : Page) : String :=
  Grid.render format columns p.rows ++ "Page " ++ toString p.page ++ " (limit " ++
    toString p.limit ++ ")\n"

def resultText (format : Format) (r : SqlResult) : String :=
  if format = .json then (Wire.toJson r).pretty
  else
    match r.rows with
    | some found => Grid.render format r.columnNames found
    | none => rowsAffected (r.message.getD "OK") (toString (r.rowsAffected.getD 0))

/-- The credentials that the arguments of a connect give. -/
def credentials (engine : Engine) (database host : String) (port : Option UInt16)
    (username password : String) : Credentials :=
  if engine.isNetworked then
    let c := Credentials.networked engine host database username password
    match port with
    | some p => c.withPort p
    | none => c
  else Credentials.file database

/-- The page of rows as text. The columns come in the order of the schema, if that can be read. -/
def shownPage (format : Format) (table : String) (p : Page) : ConsoleTask String := do
  if format = .json then return (Wire.toJson p).pretty
  else
    match ← Console.columns table .cached with
    | .ok schema => return pageText format (Grid.orderedColumns schema p.rows) p
    | .error _ => return pageText format (columnNames p.rows) p

/-- What is asked of the rows: what is not said stays as it is for a newly selected table. -/
def pageQuery (w : Workspace) (page limit : Option UInt32) (sort : Option String)
    (order : Option SortOrder) : PageQuery :=
  ⟨page.or w.query.page, limit.or w.query.limit, sort, order⟩

/-- Does what the command says; what it shows is in the format. -/
def perform (format : Format) (session : Session) : Command → ConsoleTask (Except Error String)
  | connect engine database host port username password => do
    let c := credentials engine database host port username password
    return (← Console.connect c).map fun g => connectedText "Connected" g.database g.engine
  | status => return .ok (sessionText format session)
  | disconnect => return (← Console.disconnect).map fun _ => "Disconnected\n"
  | info => return (← Console.databaseInfo .cached).map (summaryText format)
  | tables => return (← Console.tables .cached).map (tablesText format)
  | describe table => do
    Task.change (Console.onWorkspace (·.selectTable (some table)))
    return (← Console.tableSchema table .cached).map fun (cs, is, ks) =>
      schemaText format table cs is ks
  | rows table page limit sort order => do
    Task.change (Console.onWorkspace fun w =>
      let w := w.selectTable (some table)
      w.setQuery (pageQuery w page limit sort order))
    match ← Console.selectedRows .cached with
    | .error e => return .error e
    | .ok none => return .ok ""
    | .ok (some p) => return .ok (← shownPage format table p)
  | insert table row => do
    match readArgument Row "row" row with
    | .error e => return .error e
    | .ok r => return (← Console.insertRow table r).map receiptText
  | update table id row => do
    match readArgument Row "row" row, RowId.ofText id with
    | .error e, _ => return .error e
    | _, .error e => return .error e
    | .ok r, .ok key => return (← Console.updateRow table key r).map receiptText
  | delete table id confirmed => do
    match RowId.ofText id with
    | .error e => return .error e
    | .ok key => return (← Console.deleteRow table key confirmed).map receiptText
  | createTable name columns => do
    match readArgument (List ColumnSpec) "column definitions" columns with
    | .error e => return .error e
    | .ok cs => return (← Console.createTable ⟨name, cs⟩).map (·.message ++ "\n")
  | alterTable table change confirmed => do
    match readArgument Alteration "table change" change with
    | .error e => return .error e
    | .ok a => return (← Console.alterTable table a confirmed).map receiptText
  | dropTable table confirmed =>
    return (← Console.dropTable table confirmed).map (·.message ++ "\n")
  | query sql confirmed => return (← Console.executeSql ⟨sql⟩ confirmed).map (resultText format)

/-- Resolves the session and runs the command. What is about the open database is refused where
none is open. -/
def run (format : Format) (c : Command) : ConsoleTask (Except Error String) := do
  let session ← Console.start
  if c.needsConnection && !session.isConnected then return .error (.invalid .notConnected)
  else c.perform format session

end Command

end DbConsole

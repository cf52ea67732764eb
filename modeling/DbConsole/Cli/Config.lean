import DbConsole.Cache.Options
import DbConsole.Cli.Arguments
import DbConsole.Console.Basic
import DbConsole.Engine
import DbConsole.Listing

/-!
What can be asked of the console from a command line, what a command line asks for, and the console
that it is asked of.
-/
set_option autoImplicit false

namespace DbConsole

/-- What can be asked of the console from a command line. -/
inductive Command where
  | connect (engine : Engine) (database host : String) (port : Option UInt16)
      (username password : String)
  | status
  | disconnect
  | info
  | tables
  | describe (table : String)
  | rows (table : String) (page limit : Option UInt32) (sort : Option String)
      (order : Option SortOrder)
  /-- The row is a document. -/
  | insert (table row : String)
  | update (table id row : String)
  | delete (table id : String) (confirmed : Bool)
  /-- The columns are a document. -/
  | createTable (name columns : String)
  /-- The change is a document. -/
  | alterTable (table change : String) (confirmed : Bool)
  | dropTable (table : String) (confirmed : Bool)
  | query (sql : String) (confirmed : Bool)
  deriving DecidableEq, Repr

/-- Whether the command is about the open database. -/
def Command.needsConnection : Command → Bool
  | connect .. => false
  | status => false
  | disconnect => false
  | _ => true

/-- The command of the name, from what is given. -/
def Verb.command (g : Given) : Verb → Except UsageFault Command
  | connect => do
    let engine ← g.require Parameter.engine
    let database ← g.require Parameter.database
    return .connect engine database (g.getD Parameter.host "localhost") (g.get? Parameter.port)
      (g.getD Parameter.username "") (g.getD Parameter.password "")
  | status => return .status
  | disconnect => return .disconnect
  | info => return .info
  | tables => return .tables
  | describe => return .describe (← g.require Parameter.table)
  | rows =>
    return .rows (← g.require Parameter.table) (g.get? Parameter.page) (g.get? Parameter.limit)
      (g.get? Parameter.sort) (g.get? Parameter.order)
  | insert => return .insert (← g.require Parameter.table) (← g.require Parameter.row)
  | update =>
    return .update (← g.require Parameter.table) (← g.require Parameter.id)
      (← g.require Parameter.row)
  | delete =>
    return .delete (← g.require Parameter.table) (← g.require Parameter.id)
      (g.getD Parameter.yes false)
  | createTable =>
    return .createTable (← g.require Parameter.table) (← g.require Parameter.columns)
  | alterTable =>
    return .alterTable (← g.require Parameter.table) (← g.require Parameter.change)
      (g.getD Parameter.yes false)
  | dropTable => return .dropTable (← g.require Parameter.table) (g.getD Parameter.yes false)
  | query => return .query (← g.require Parameter.sql) (g.getD Parameter.yes false)

/-- The name under which the command is called. -/
def Command.verb : Command → Verb
  | connect .. => .connect
  | status => .status
  | disconnect => .disconnect
  | info => .info
  | tables => .tables
  | describe .. => .describe
  | rows .. => .rows
  | insert .. => .insert
  | update .. => .update
  | delete .. => .delete
  | createTable .. => .createTable
  | alterTable .. => .alterTable
  | dropTable .. => .dropTable
  | query .. => .query

/-- What a command line asks for. Times are in seconds. -/
structure Config where
  address : String
  tokenFile : Option String
  staleTime : Option UInt64
  gcTime : Option UInt64
  retries : Option UInt32
  requestTimeout : Option UInt64
  format : Format
  logLevel : String
  jsonLogs : Bool
  enableLogs : Bool
  command : Option Command
  deriving DecidableEq

namespace Config

def defaultAddress : String :=
  "http://localhost:3000/api"

def ofGiven (g : Given) (command : Option Command) : Config where
  address := g.getD Parameter.apiUrl defaultAddress
  tokenFile := g.get? Parameter.tokenFile
  staleTime := g.get? Parameter.staleTime
  gcTime := g.get? Parameter.gcTime
  retries := g.get? Parameter.retry
  requestTimeout := g.get? Parameter.requestTimeout
  format := g.getD Parameter.format .table
  logLevel := g.getD Parameter.logLevel "info"
  jsonLogs := g.getD Parameter.jsonLogs false
  enableLogs := g.getD Parameter.enableLogs false
  command := command

/-- Reads a command line. What follows the name of a command is read whole before the end of what
precedes it, and counts more where both give a parameter. -/
def ofArguments (env : Environment) (args : List String) : Except UsageFault Config := do
  match ← readLevel .program false args (.start .program) with
  | (program, none) => return ofGiven ⟨← program.finish .program env, env⟩ none
  | (program, some (verb, rest)) =>
    let (own, _) ← readLevel (.command verb) false rest (.start (.command verb))
    let given : Given := ⟨← own.finish (.command verb) env, env⟩
    let command ← verb.command given
    return ofGiven (given.onTopOf (← program.finish .program env)) (some command)

def cacheOptions (c : Config) : CacheOptions :=
  ⟨c.staleTime, c.gcTime, c.retries, none⟩

/-- The timeout of a request in milliseconds. -/
def timeout (c : Config) : Option Nat :=
  c.requestTimeout.map fun seconds => 1000 * seconds.toNat

/-- Where the token is kept unless the command line says otherwise, below the home directory. -/
def defaultTokenFile : String :=
  ".dbadmin/session.json"

/-- A path below a directory. -/
def joinPath (directory path : String) : String :=
  if directory = "" || directory.endsWith "/" then directory ++ path else directory ++ "/" ++ path

/-- Where the token is kept. -/
def tokenPath (c : Config) (env : Environment) : String :=
  c.tokenFile.getD (joinPath ((env "HOME").getD ".") defaultTokenFile)

end Config

/-- The console that a configuration asks for. -/
def Console.ofConfig (config : Config) (tokens : TokenStore) : Except Error Console := do
  let options := config.cacheOptions
  options.validate.mapError fun fault => .invalid (.badOptions fault)
  Console.create config.address tokens options.settings config.timeout

end DbConsole

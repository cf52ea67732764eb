import DbConsole.Cli.Usage

/-!
The parameters of the command line: those of the program, which every command takes too, and those
of each command.
-/
set_option autoImplicit false

namespace DbConsole

/-- Something that a command line may give. Options are given by name or letter, the others by their
place. -/
structure Parameter where
  name : String
  letter : Option Char := none
  /-- The environment variable that gives the value if the command line does not. -/
  envName : Option String := none
  kind : ValueKind := .text
  isOption : Bool := true
  deriving DecidableEq

namespace Parameter

def apiUrl : Parameter := { name := "api-url", envName := "DBADMIN_API_URL" }

def tokenFile : Parameter :=
  { name := "token-file", envName := "DBADMIN_TOKEN_FILE", kind := .path }

def staleTime : Parameter :=
  { name := "stale-time", envName := "DBADMIN_STALE_TIME", kind := .natural64 }

def gcTime : Parameter :=
  { name := "gc-time", envName := "DBADMIN_GC_TIME", kind := .natural64 }

def retry : Parameter :=
  { name := "retry", envName := "DBADMIN_RETRY", kind := .natural32 }

def requestTimeout : Parameter :=
  { name := "request-timeout", envName := "DBADMIN_REQUEST_TIMEOUT", kind := .natural64 }

def format : Parameter :=
  { name := "format", letter := 'f', envName := "DBADMIN_FORMAT", kind := .format }

def logLevel : Parameter := { name := "log-level", envName := "DBADMIN_LOG_LEVEL" }

def jsonLogs : Parameter :=
  { name := "json-logs", envName := "DBADMIN_JSON_LOGS", kind := .flag }

def enableLogs : Parameter :=
  { name := "enable-logs", envName := "DBADMIN_ENABLE_LOGS", kind := .flag }

def help : Parameter := { name := "help", letter := 'h', kind := .help }

def version : Parameter := { name := "version", letter := 'V', kind := .version }

/-- What the program and every command take. -/
def shared : List Parameter :=
  [apiUrl, tokenFile, staleTime, gcTime, retry, requestTimeout, format, logLevel, jsonLogs,
    enableLogs]

def engine : Parameter := { name := "type", kind := .engine }

def database : Parameter := { name := "database" }

def host : Parameter := { name := "host" }

def port : Parameter := { name := "port", kind := .natural16 }

def username : Parameter := { name := "username", letter := 'u' }

def password : Parameter := { name := "password", envName := "DBADMIN_PASSWORD" }

def page : Parameter := { name := "page", kind := .natural32 }

def limit : Parameter := { name := "limit", kind := .natural32 }

def sort : Parameter := { name := "sort" }

def order : Parameter := { name := "order", kind := .order }

def yes : Parameter := { name := "yes", kind := .flag }

def table : Parameter := { name := "table", isOption := false }

def row : Parameter := { name := "row", isOption := false }

def id : Parameter := { name := "id", isOption := false }

def columns : Parameter := { name := "columns", isOption := false }

def change : Parameter := { name := "change", isOption := false }

def sql : Parameter := { name := "sql", isOption := false }

end Parameter

/-- The commands by name. -/
inductive Verb where
  | connect
  | status
  | disconnect
  | info
  | tables
  | describe
  | rows
  | insert
  | update
  | delete
  | createTable
  | alterTable
  | dropTable
  | query
  deriving DecidableEq, Repr

namespace Verb

def all : List Verb :=
  [connect, status, disconnect, info, tables, describe, rows, insert, update, delete, createTable,
    alterTable, dropTable, query]

def name : Verb → String
  | connect => "connect"
  | status => "status"
  | disconnect => "disconnect"
  | info => "info"
  | tables => "tables"
  | describe => "describe"
  | rows => "rows"
  | insert => "insert"
  | update => "update"
  | delete => "delete"
  | createTable => "create-table"
  | alterTable => "alter-table"
  | dropTable => "drop-table"
  | query => "query"

def ofName? (name : String) : Option Verb :=
  all.find? (·.name == name)

theorem ofName?_name (v : Verb) : ofName? v.name = some v := by
  cases v <;> decide

open Parameter in
/-- What the command takes besides what all commands take; those given by place in their order. -/
def parameters : Verb → List Parameter
  | connect => [engine, database, host, port, username, password]
  | status => []
  | disconnect => []
  | info => []
  | tables => []
  | describe => [table]
  | rows => [table, page, limit, sort, order]
  | insert => [table, row]
  | update => [table, Parameter.id, row]
  | delete => [table, Parameter.id, yes]
  | createTable => [table, columns]
  | alterTable => [table, change, yes]
  | dropTable => [table, yes]
  | query => [sql, yes]

end Verb

end DbConsole

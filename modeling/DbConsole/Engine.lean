import DbConsole.Error
import DbConsole.Text.Lowercase

/-!
The kinds of database that can be administered.
-/
set_option autoImplicit false

namespace DbConsole

inductive Engine where
  | postgres
  /-- Includes MariaDB. -/
  | mysql
  | sqlite
  deriving DecidableEq, Repr

namespace Engine

/-- The name in messages on the wire. -/
def wireName : Engine → String
  | .postgres => "postgres"
  | .mysql => "mysql"
  | .sqlite => "sqlite"

def displayName : Engine → String
  | .postgres => "PostgreSQL"
  | .mysql => "MySQL"
  | .sqlite => "SQLite"

/-- The name in diagnostics. -/
def describe : Engine → String
  | .postgres => "Postgres"
  | .mysql => "Mysql"
  | .sqlite => "Sqlite"

def defaultPort : Engine → Option UInt16
  | .postgres => some 5432
  | .mysql => some 3306
  | .sqlite => none

/-- Whether a connection needs a host, a port and a user. -/
def isNetworked : Engine → Bool
  | .sqlite => false
  | _ => true

def ofName (name : String) : Except Error Engine :=
  let lowered := Text.asciiLower name
  if lowered ∈ ["postgres", "postgresql", "pg"] then .ok .postgres
  else if lowered ∈ ["mysql", "mariadb"] then .ok .mysql
  else if lowered ∈ ["sqlite", "sqlite3"] then .ok .sqlite
  else .error (.invalid (.unknownEngine lowered))

end Engine

end DbConsole

import DbConsole.Engine
import DbConsole.Text.Blank
import DbConsole.Text.Quoted

/-!
What is told to the backend to open a database, and what it tells about the open one.
-/
set_option autoImplicit false

namespace DbConsole

/-- Refuses a blank text. -/
def requireText (what text : String) : Except Error Unit :=
  if Text.isAllBlank text then .error (.invalid (.required what)) else .ok ()

/-- What opens a database. A database file leaves host, port, user and password empty. -/
structure Credentials where
  host : String
  port : UInt16
  database : String
  username : String
  password : String
  engine : Engine
  deriving DecidableEq

namespace Credentials

/-- Credentials for the default port of the engine. -/
def networked (engine : Engine) (host database username password : String) : Credentials :=
  ⟨host, engine.defaultPort.getD 0, database, username, password, engine⟩

def file (path : String) : Credentials :=
  ⟨"", 0, path, "", "", .sqlite⟩

def withPort (c : Credentials) (port : UInt16) : Credentials :=
  { c with port := port }

def validate (c : Credentials) : Except Error Unit := do
  requireText (if c.engine.isNetworked then "Database name" else "Database file path") c.database
  if c.engine.isNetworked then
    requireText "Host" c.host
    if c.port = 0 then .error (.invalid .portMissing)
    requireText "Username" c.username

/-- A description for diagnostics, which hides the password. -/
def describe (c : Credentials) : String :=
  "ConnectRequest \x7b host: " ++ Text.quoted c.host ++ ", port: " ++ toString c.port.toNat ++
    ", database: " ++ Text.quoted c.database ++ ", username: " ++ Text.quoted c.username ++
    ", password: \"***\", db_type: " ++ c.engine.describe ++ " \x7d"

end Credentials

/-- The backend's answer to credentials that it accepts. -/
structure Grant where
  token : String
  database : String
  engine : Engine
  deriving DecidableEq

/-- Whether the backend holds a database open, and which. -/
structure StatusReport where
  connected : Bool
  database : Option String
  engine : Option Engine
  deriving DecidableEq

structure DatabaseSummary where
  database : String
  engine : String
  version : String
  tableCount : Int64
  deriving DecidableEq

end DbConsole

import DbConsole.Engine
import DbConsole.Text.Quoted
import DbConsole.Wire.Connection

/-!
The session with the backend: whether a database is open, and which.
-/
set_option autoImplicit false

namespace DbConsole

inductive SessionStatus where
  | uninitialized
  | checking
  | connected
  | disconnected
  deriving DecidableEq, Repr

namespace SessionStatus

def name : SessionStatus → String
  | .uninitialized => "uninitialized"
  | .checking => "checking"
  | .connected => "connected"
  | .disconnected => "disconnected"

/-- The name in diagnostics. -/
def describe : SessionStatus → String
  | .uninitialized => "Uninitialized"
  | .checking => "Checking"
  | .connected => "Connected"
  | .disconnected => "Disconnected"

end SessionStatus

structure Session where
  status : SessionStatus
  database : Option String
  engine : Option Engine
  deriving DecidableEq

namespace Session

/-- A session of the status with no database. -/
def plain (status : SessionStatus) : Session :=
  ⟨status, none, none⟩

def initial : Session :=
  plain .uninitialized

def connected (database : Option String) (engine : Option Engine) : Session :=
  ⟨.connected, database, engine⟩

def isConnected (s : Session) : Bool :=
  s.status == .connected

/-- The session as a document. -/
def toJson (s : Session) : Json :=
  .object [("status", .string s.status.name), ("database", Json.ofOption .string s.database),
    ("db_type", Json.ofOption (fun e => .string e.wireName) s.engine)]

def describe (s : Session) : String :=
  let database := match s.database with
    | some d => "Some(" ++ Text.quoted d ++ ")"
    | none => "None"
  let engine := match s.engine with
    | some e => "Some(" ++ e.describe ++ ")"
    | none => "None"
  "Session \x7b status: " ++ s.status.describe ++ ", database: " ++ database ++ ", db_type: " ++
    engine ++ " \x7d"

end Session

end DbConsole

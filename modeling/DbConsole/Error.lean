import DbConsole.Cache.Settings
import DbConsole.Disk.Basic
import DbConsole.Json.Fault
import DbConsole.Url.Host

/-!
Everything that can go wrong, as causes. A failure is found before anything is sent, or on the way
to the backend and back, or it is the backend's own answer.
-/
set_option autoImplicit false

namespace DbConsole

/-- The largest page that a listing may ask for. -/
def maxPageSize : Nat := 1000

/-- Why an input is refused before anything is sent. -/
inductive Invalid where
  | unknownEngine (name : String)
  | unknownOrder (name : String)
  /-- A text that must not be blank is. -/
  | required (what : String)
  | portMissing
  | pageZero
  | limitOutOfRange
  | sortBlank
  | notAKey (typeName : String)
  | noKeyValue (column : String)
  | emptyInsert
  | emptyUpdate
  | unknownColumn (name : String)
  | nullForbidden (column : String)
  | wrongCell (column dataType typeName shown : String)
  | noColumns
  | typeRequired (column : String)
  | duplicateColumn (name : String)
  | emptySql
  | badUrl (text : String) (fault : UrlFault)
  | opaqueUrl (text : String)
  | badArgument (what : String) (fault : Json.Fault)
  | badOptions (fault : BadOptions)
  | notConnected
  | other (text : String)
  deriving DecidableEq

def Invalid.message : Invalid → String
  | .unknownEngine name =>
    "Unknown database type '" ++ name ++ "'. Expected postgres, mysql or sqlite"
  | .unknownOrder name => "Invalid sort order '" ++ name ++ "'. Expected asc or desc"
  | .required what => what ++ " is required"
  | .portMissing => "Port must be between 1 and 65535"
  | .pageZero => "Page numbers start at 1"
  | .limitOutOfRange => "Limit must be between 1 and " ++ toString maxPageSize
  | .sortBlank => "Sort column cannot be empty"
  | .notAKey typeName => "A " ++ typeName ++ " value cannot identify a row"
  | .noKeyValue column => "Row has no value for primary key '" ++ column ++ "'"
  | .emptyInsert => "Cannot insert an empty row"
  | .emptyUpdate => "No changes to save"
  | .unknownColumn name => "Unknown column '" ++ name ++ "'"
  | .nullForbidden column => "Column '" ++ column ++ "' cannot be NULL"
  | .wrongCell column dataType typeName shown =>
    "Column '" ++ column ++ "' (" ++ dataType ++ ") cannot hold " ++ typeName ++ " value '" ++
      shown ++ "'"
  | .noColumns => "A table needs at least one column"
  | .typeRequired column => "Data type is required for column '" ++ column ++ "'"
  | .duplicateColumn name => "Duplicate column name '" ++ name ++ "'"
  | .emptySql => "Empty SQL statement"
  | .badUrl url fault => "Invalid API URL '" ++ url ++ "': " ++ fault.message
  | .opaqueUrl url => "API URL '" ++ url ++ "' cannot be used as a base"
  | .badArgument what fault => "Invalid " ++ what ++ ": " ++ fault.message
  | .badOptions fault => fault.message
  | .notConnected => "Not connected. Run `dbadmin connect` first"
  | .other words => words

/-- Why no usable answer came. -/
inductive Unanswered where
  /-- The request cannot be built: a header that no request may carry, or, where the address is
  given, a scheme that is not spoken. -/
  | unsendable (url : Option String)
  | refused (url : String)
  | timedOut (url : String)
  | dropped (url : String)
  /-- An answer that is no envelope, under a status that is no success. -/
  | status (request status : String)
  | other (text : String)
  deriving DecidableEq

def Unanswered.message : Unanswered → String
  | .unsendable none => "builder error"
  | .unsendable (some url) => "builder error for url (" ++ url ++ ")"
  | .refused url =>
    "Could not reach the API server: error sending request for url (" ++ url ++ ")"
  | .timedOut url => "Request timed out: error sending request for url (" ++ url ++ ")"
  | .dropped url => "error sending request for url (" ++ url ++ ")"
  | .status request code => request ++ " returned HTTP " ++ code
  | .other words => words

/-- Why an answer cannot be read. -/
inductive Unreadable where
  | text (fault : Json.Fault)
  /-- The answer to a request, of which the method and the endpoint are given. -/
  | answer (request : String) (fault : Json.Fault)
  | cutShort
  | missingData
  /-- A cached value that was stored as something else than it is read as. -/
  | mistyped (key : String)
  | other (text : String)
  deriving DecidableEq

def Unreadable.message : Unreadable → String
  | .text fault => fault.message
  | .answer request fault => request ++ ": " ++ fault.message
  | .cutShort => "error decoding response body"
  | .missingData => "Response is missing its data"
  | .mistyped key => "Cached value for '" ++ key ++ "' has an unexpected type"
  | .other words => words

/-- Why the token cannot be kept or forgotten. -/
inductive Unstored where
  | disk (fault : DiskFault)
  | other (text : String)
  deriving DecidableEq

def Unstored.message : Unstored → String
  | .disk fault => fault.message
  | .other words => words

inductive Error where
  | transport (cause : Unanswered)
  /-- The backend's own refusal, in its words. -/
  | rejected (message : String)
  | decode (cause : Unreadable)
  | invalid (cause : Invalid)
  | unconfirmed (operation reason : String)
  | noPrimaryKey (table : String)
  | storage (cause : Unstored)
  deriving DecidableEq

namespace Error

def message : Error → String
  | .transport cause => "Request failed: " ++ cause.message
  | .rejected message => message
  | .decode cause => "Invalid response: " ++ cause.message
  | .invalid cause => "Invalid input: " ++ cause.message
  | .unconfirmed operation reason => "Confirmation required: " ++ operation ++ ". " ++ reason
  | .noPrimaryKey table =>
    "Table '" ++ table ++ "' has no primary key. Rows can only be edited or deleted by primary key."
  | .storage cause => "Token storage error: " ++ cause.message

/-- Only a request that got no answer is worth sending again. -/
def isRetryable : Error → Bool
  | .transport _ => true
  | _ => false

/-- Whether nothing was sent. -/
def isClientSide : Error → Bool
  | .invalid _ => true
  | .unconfirmed _ _ => true
  | .noPrimaryKey _ => true
  | _ => false

end Error

end DbConsole

import DbConsole.Cell
import DbConsole.Error
import DbConsole.Text.Blank
import DbConsole.Text.Lowercase

/-!
Pages of a table's rows, what asks for them, and the answers to changes of rows.
-/
set_option autoImplicit false

namespace DbConsole

inductive SortOrder where
  | asc
  | desc
  deriving DecidableEq, Repr

namespace SortOrder

def name : SortOrder → String
  | .asc => "asc"
  | .desc => "desc"

def ofName (text : String) : Except Error SortOrder :=
  let lowered := Text.asciiLower text
  if lowered = "asc" then .ok .asc
  else if lowered = "desc" then .ok .desc
  else .error (.invalid (.unknownOrder lowered))

end SortOrder

/-- The size of a page where nobody asks for another. -/
def defaultPageSize : UInt32 := 50

/-- Which page of a listing is asked for. What is not set is left to the backend, so a query that
sets nothing and one that sets the first page are different. -/
structure PageQuery where
  page : Option UInt32
  limit : Option UInt32
  sort : Option String
  order : Option SortOrder
  deriving DecidableEq

namespace PageQuery

def unset : PageQuery :=
  ⟨none, none, none, none⟩

def ofPage (page limit : UInt32) : PageQuery :=
  ⟨some page, some limit, none, none⟩

def sortedBy (q : PageQuery) (column : String) (order : SortOrder) : PageQuery :=
  { q with sort := some column, order := some order }

def validate (q : PageQuery) : Except Error Unit :=
  if q.page = some 0 then .error (.invalid .pageZero)
  else if (q.limit.map fun n => n.toNat = 0 || maxPageSize < n.toNat).getD false then
    .error (.invalid .limitOutOfRange)
  else if (q.sort.map Text.isAllBlank).getD false then .error (.invalid .sortBlank)
  else .ok ()

/-- The query as names and values, in the order in which they are sent. -/
def pairs (q : PageQuery) : List (String × String) :=
  (q.page.map fun n => ("page", toString n.toNat)).toList ++
  (q.limit.map fun n => ("limit", toString n.toNat)).toList ++
  (q.sort.map fun s => ("sort", s)).toList ++
  (q.order.map fun o => ("order", o.name)).toList

end PageQuery

/-- One page of a listing. -/
structure Page where
  rows : List Row
  page : UInt32
  limit : UInt32

/-- The backend's answer to a change of rows or of a table. -/
structure Receipt where
  message : String
  rowsAffected : UInt64
  deriving DecidableEq

/-- SQL that a person has typed. -/
structure SqlRequest where
  sql : String
  deriving DecidableEq

def SqlRequest.validate (r : SqlRequest) : Except Error Unit :=
  if Text.isAllBlank r.sql then .error (.invalid .emptySql) else .ok ()

/-- The answer to ad-hoc SQL: rows for a read, a message and a count for a write. -/
structure SqlResult where
  rows : Option (List Row)
  rowCount : Option UInt64
  message : Option String
  rowsAffected : Option UInt64

def SqlResult.hasRows (r : SqlResult) : Bool :=
  r.rows.isSome

/-- Adds the names that are not there yet at the end. -/
def addNames (known names : List String) : List String :=
  names.foldl (fun acc n => if n ∈ acc then acc else acc ++ [n]) known

/-- The column names of the rows, in the order in which they first occur. -/
def columnNames (rows : List Row) : List String :=
  rows.foldl (fun acc row => addNames acc row.keys) []

def SqlResult.columnNames (r : SqlResult) : List String :=
  DbConsole.columnNames (r.rows.getD [])

end DbConsole

import DbConsole.Cell
import DbConsole.Schema

/-!
What addresses one row. Rows are changed and deleted by primary key only; a position in a listing
tells rows apart on the screen and nothing more.
-/
set_option autoImplicit false

namespace DbConsole

/-- The primary key of a row as text. -/
structure RowId where
  text : String
  deriving DecidableEq, Repr

namespace RowId

/-- Numbers and texts that are not empty can be keys. -/
def ofCell : Cell → Except Error RowId
  | .text s => if s = "" then .error (.invalid (.notAKey (Cell.text s).typeName)) else .ok ⟨s⟩
  | .number n => .ok ⟨n.text⟩
  | cell => .error (.invalid (.notAKey cell.typeName))

/-- A key that someone has typed. -/
def ofText (raw : String) : Except Error RowId :=
  if raw = "" then .error (.invalid (.required "Row id")) else .ok ⟨raw⟩

end RowId

/-- How a listing tells its rows apart. -/
inductive RowRef where
  | key (id : RowId)
  /-- The place in the listing, where there is no key. It changes with sorting and paging. -/
  | position (index : Nat)
  deriving DecidableEq

namespace RowRef

def ofRow (row : Row) (columns : List Column) (index : Nat) : RowRef :=
  match (primaryKey? columns).bind fun pk => row.get? pk.name with
  | none => .position index
  | some cell =>
    match RowId.ofCell cell with
    | .ok id => .key id
    | .error _ => .position index

/-- The key under which the row of the table can be changed. -/
def toId (table : String) : RowRef → Except Error RowId
  | .key id => .ok id
  | .position _ => .error (.noPrimaryKey table)

end RowRef

/-- The key of a row of a table that has the given columns. -/
def rowId (table : String) (row : Row) (columns : List Column) : Except Error RowId :=
  match primaryKey? columns with
  | none => .error (.noPrimaryKey table)
  | some pk =>
    match row.get? pk.name with
    | none => .error (.invalid (.noKeyValue pk.name))
    | some cell => RowId.ofCell cell

end DbConsole

import DbConsole.Connection
import DbConsole.Text.Lowercase

/-!
Tables, their columns, indexes and foreign keys, and the requests that create and change tables.
-/
set_option autoImplicit false

namespace DbConsole

structure Table where
  name : String
  kind : String
  rowEstimate : Option Int64
  deriving DecidableEq

structure Column where
  name : String
  dataType : String
  nullable : Bool
  isPrimaryKey : Bool
  defaultValue : Option String
  deriving DecidableEq

/-- Whether the database fills the column where no value is given. -/
def Column.hasDefault (c : Column) : Bool :=
  c.defaultValue.isSome

/-- The first column that is marked as the primary key. -/
def primaryKey? (columns : List Column) : Option Column :=
  columns.find? (·.isPrimaryKey)

structure Index where
  name : String
  isUnique : Bool
  isPrimary : Bool
  columns : List String
  deriving DecidableEq

structure ForeignKey where
  constraint : String
  column : String
  foreignTable : String
  foreignColumn : String
  deriving DecidableEq

/-- A column that is to be made. -/
structure ColumnSpec where
  name : String
  dataType : String
  nullable : Bool
  isPrimaryKey : Bool
  defaultValue : Option String
  deriving DecidableEq

namespace ColumnSpec

/-- A column that may be NULL, is no key and has no default. -/
def plain (name dataType : String) : ColumnSpec :=
  ⟨name, dataType, true, false, none⟩

/-- A primary key holds no NULL. -/
def asPrimaryKey (c : ColumnSpec) : ColumnSpec :=
  { c with isPrimaryKey := true, nullable := false }

def notNull (c : ColumnSpec) : ColumnSpec :=
  { c with nullable := false }

def withDefault (c : ColumnSpec) (value : String) : ColumnSpec :=
  { c with defaultValue := some value }

def validate (c : ColumnSpec) : Except Error Unit := do
  requireText "Column name" c.name
  if Text.isAllBlank c.dataType then .error (.invalid (.typeRequired c.name))

end ColumnSpec

/-- A table that is to be made. -/
structure TableSpec where
  name : String
  columns : List ColumnSpec
  deriving DecidableEq

namespace TableSpec

/-- Checks columns in order; names that differ in case alone are duplicates. -/
def validateColumns : List String → List ColumnSpec → Except Error Unit
  | _, [] => .ok ()
  | seen, c :: rest => do
    c.validate
    if Text.lower c.name ∈ seen then .error (.invalid (.duplicateColumn c.name))
    validateColumns (Text.lower c.name :: seen) rest

def validate (t : TableSpec) : Except Error Unit := do
  requireText "Table name" t.name
  if t.columns.isEmpty then .error (.invalid .noColumns)
  validateColumns [] t.columns

end TableSpec

/-- A change to a table. -/
inductive Alteration where
  | renameTable (newName : String)
  | addColumn (column : ColumnSpec)
  | dropColumn (name : String)
  | modifyColumn (oldName : String) (column : ColumnSpec)
  | renameColumn (oldName newName : String)
  deriving DecidableEq

namespace Alteration

/-- The name of the change in confirmations. -/
def operation : Alteration → String
  | .renameTable _ => "RENAME TABLE"
  | .addColumn _ => "ADD COLUMN"
  | .dropColumn _ => "DROP COLUMN"
  | .modifyColumn _ _ => "MODIFY COLUMN"
  | .renameColumn _ _ => "RENAME COLUMN"

/-- Whether data is lost. -/
def isDestructive : Alteration → Bool
  | .dropColumn _ => true
  | _ => false

def renamedTo? : Alteration → Option String
  | .renameTable newName => some newName
  | _ => none

def validate : Alteration → Except Error Unit
  | .renameTable newName => requireText "New table name" newName
  | .addColumn column => column.validate
  | .dropColumn name => requireText "Column name" name
  | .modifyColumn oldName column => do
    requireText "Column name" oldName
    column.validate
  | .renameColumn oldName newName => do
    requireText "Column name" oldName
    requireText "New column name" newName

end Alteration

/-- The backend's word on a table that was made or dropped. -/
structure TableNotice where
  message : String
  table : String
  deriving DecidableEq

end DbConsole

import DbConsole.Error
import DbConsole.Sql.Batch

/-!
Statements that are run only when they are confirmed.
-/
set_option autoImplicit false

namespace DbConsole.Sql

inductive Danger where
  | dropDatabase
  | dropTable
  | dropIndex
  | dropColumn
  | truncate
  | deleteAll
  | updateAll
  /-- Text that cannot be read. -/
  | unrecognized
  deriving DecidableEq, Repr

namespace Danger

def operation : Danger → String
  | .dropDatabase => "DROP DATABASE"
  | .dropTable => "DROP TABLE"
  | .dropIndex => "DROP INDEX"
  | .dropColumn => "ALTER TABLE DROP COLUMN"
  | .truncate => "TRUNCATE"
  | .deleteAll => "DELETE without WHERE"
  | .updateAll => "UPDATE without WHERE"
  | .unrecognized => "Unrecognized SQL"

def reason : Danger → String
  | .dropDatabase => "This will permanently delete the entire database and all its data"
  | .dropTable => "This will permanently delete the table and all its data"
  | .dropIndex => "This will permanently delete the index"
  | .dropColumn => "This will permanently delete the column and all its data"
  | .truncate => "This will remove all rows from the table"
  | .deleteAll => "This will delete all rows from the table"
  | .updateAll => "This will update all rows in the table"
  | .unrecognized => "The statement could not be analyzed and may modify or delete data"

/-- The refusal of an operation that was not confirmed. -/
def error (d : Danger) : Error :=
  .unconfirmed d.operation d.reason

end Danger

def DropTarget.danger? : DropTarget → Option Danger
  | .table => some .dropTable
  | .index => some .dropIndex
  | .database => some .dropDatabase
  | .schema => some .dropDatabase
  | .other => none

/-- The danger that a statement's outermost form shows. -/
def Statement.danger? : Statement → Option Danger
  | .drop target _ => target.danger?
  | .alterTable _ changes => if changes.contains .dropColumn then some .dropColumn else none
  | .truncate => some .truncate
  | .delete filtered _ => if filtered then none else some .deleteAll
  | .update filtered _ => if filtered then none else some .updateAll
  | _ => none

/-- The first danger of a batch. -/
def danger? (engine : Option Engine) (text : String) : Option Danger :=
  match batch? engine text with
  | some statements => statements.findSome? Statement.danger?
  | none => some .unrecognized

end DbConsole.Sql

import DbConsole.Sql.Batch
import DbConsole.Sql.Scope

/-!
What a statement does, as far as the cache has to know, and how much of a database a batch can
touch.
-/
set_option autoImplicit false

namespace DbConsole.Sql

inductive Kind where
  | read
  /-- Rows are written. -/
  | dml
  /-- The schema is changed. -/
  | ddl
  | transaction
  | other
  deriving DecidableEq, Repr

/-- What a statement's outermost form says that it does. An explanation counts as what it
explains. -/
def Statement.kind : Statement → Kind
  | .query _ => .read
  | .describe => .read
  | .show _ => .read
  | .explain _ _ operand => operand.kind
  | .insert _ => .dml
  | .update _ _ => .dml
  | .delete _ _ => .dml
  | .merge _ => .dml
  | .copy _ => .dml
  | .drop _ _ => .ddl
  | .alterTable _ _ => .ddl
  | .truncate => .ddl
  | .schema _ _ => .ddl
  | .transaction => .transaction
  | .renameTables _ => .other
  | .other _ _ => .other
  | .storing _ => .other

def Kind.scope : Kind → Scope
  | .read => .readOnly
  | .transaction => .readOnly
  | .dml => .data
  | .ddl => .schema
  | .other => .schema

/-- The widest scope of the statements. -/
def scopeOf (statements : List Statement) : Scope :=
  (statements.map fun s => s.kind.scope).foldl Scope.join .readOnly

/-- The scope of a batch; what cannot be read may touch anything. -/
def scope (engine : Option Engine) (text : String) : Scope :=
  match batch? engine text with
  | some statements => scopeOf statements
  | none => .schema

end DbConsole.Sql

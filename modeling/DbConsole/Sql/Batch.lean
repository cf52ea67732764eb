import DbConsole.Sql.Grammar.Statement

/-!
A batch of SQL text as its statements, and the names of the tables that it drops or renames.
-/
set_option autoImplicit false

namespace DbConsole.Sql

/-- The statements of a text, if it can be read in the dialect of the engine. -/
def parse? (engine : Option Engine) (text : String) : Option (List Statement) :=
  let d := Dialect.ofEngine engine
  match lexemes? d text with
  | none => none
  | some ls =>
    match Grammar.batch (2 * ls.length + 1) false ⟨d, .anywhere⟩ ls with
    | .ok (statements, _) => some statements
    | .error _ => none

/-- The statements of a text that can be read and holds at least one. A text without statements
is as little understood as one that cannot be read. -/
def batch? (engine : Option Engine) (text : String) : Option (List Statement) :=
  (parse? engine text).filter (!·.isEmpty)

def Statement.droppedTables : Statement → List String
  | .drop .table names => names.map Name.bare
  | _ => []

/-- The old and new names of tables, in the order of the renames. -/
def Statement.renamedTables : Statement → List (String × String)
  | .alterTable table changes =>
    changes.filterMap fun
      | .rename newName => some (table.bare, newName.bare)
      | _ => none
  | .renameTables renames => renames.map fun (old, new) => (old.bare, new.bare)
  | _ => []

/-- The tables that a batch drops, if it can be read. -/
def droppedTables? (engine : Option Engine) (text : String) : Option (List String) :=
  (batch? engine text).map (·.flatMap Statement.droppedTables)

/-- The tables that a batch renames, if it can be read. -/
def renamedTables? (engine : Option Engine) (text : String) : Option (List (String × String)) :=
  (batch? engine text).map (·.flatMap Statement.renamedTables)

end DbConsole.Sql

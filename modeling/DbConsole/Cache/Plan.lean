import DbConsole.Cache.Key
import DbConsole.Schema
import DbConsole.Sql.Scope

/-!
Which cached reads a successful change makes stale.
-/
set_option autoImplicit false

namespace DbConsole

/-- The filters of one invalidation, none twice. -/
structure Plan where
  filters : List Filter
  deriving DecidableEq

namespace Plan

def empty : Plan :=
  ⟨[]⟩

def isEmpty (p : Plan) : Bool :=
  p.filters.isEmpty

def add (p : Plan) (f : Filter) : Plan :=
  if f ∈ p.filters then p else ⟨p.filters ++ [f]⟩

def covers (p : Plan) (k : Key) : Bool :=
  p.filters.any (·.covers k)

/-- A new table changes the list of tables and their count. -/
def createTable : Plan :=
  (empty.add (.exact .tables)).add (.exact .databaseInfo)

/-- A dropped table also takes everything about it along. -/
def dropTable (table : String) : Plan :=
  createTable.add (.table table)

/-- A changed table may have other columns and hence other rows, indexes and foreign keys; a rename
shows in the list of tables and is about two names. -/
def alterTable (table : String) (change : Alteration) : Plan :=
  let plan := ((((empty.add (.exact (.columns table))).add (.tableRows table)).add
    (.exact (.indexes table))).add (.exact (.foreignKeys table))).add (.exact .tables)
  match change.renamedTo? with
  | some newName => (plan.add (.table table)).add (.table newName)
  | none => plan

def rowChange (table : String) : Plan :=
  empty.add (.tableRows table)

def ofScope : Sql.Scope → Plan
  | .readOnly => empty
  | .data => empty.add .allRows
  | .schema => empty.add .all

end Plan

end DbConsole

import DbConsole.Listing

/-!
Addresses of cached reads, and filters over them.
-/
set_option autoImplicit false

namespace DbConsole

/-- The address of one cached read. -/
inductive Key where
  | tables
  | databaseInfo
  | columns (table : String)
  | indexes (table : String)
  | foreignKeys (table : String)
  | rows (table : String) (query : PageQuery)
  deriving DecidableEq

namespace Key

/-- The kind of read, the first part of the address. -/
def kind : Key → String
  | .tables => "tables"
  | .databaseInfo => "databaseInfo"
  | .columns _ => "table"
  | .indexes _ => "tableIndexes"
  | .foreignKeys _ => "tableForeignKeys"
  | .rows _ _ => "tableRows"

/-- The table that the read is about. -/
def table? : Key → Option String
  | .tables => none
  | .databaseInfo => none
  | .columns t => some t
  | .indexes t => some t
  | .foreignKeys t => some t
  | .rows t _ => some t

/-- Names and values as they stand behind a question mark. -/
def joinPairs (pairs : List (String × String)) : String :=
  if pairs.isEmpty then ""
  else "?" ++ String.intercalate "&" (pairs.map fun p => p.1 ++ "=" ++ p.2)

def display : Key → String
  | .rows t q => (Key.rows t q).kind ++ ":" ++ t ++ joinPairs q.pairs
  | k =>
    match k.table? with
    | some t => k.kind ++ ":" ++ t
    | none => k.kind

end Key

/-- Which cached reads an invalidation is about. -/
inductive Filter where
  | exact (key : Key)
  /-- Every page of a table, whatever the paging and sorting. -/
  | tableRows (table : String)
  /-- Every page of every table. -/
  | allRows
  /-- Everything about a table. -/
  | table (table : String)
  | all
  deriving DecidableEq

namespace Filter

def covers : Filter → Key → Bool
  | .exact e, k => e == k
  | .tableRows t, .rows u _ => u == t
  | .tableRows _, _ => false
  | .allRows, .rows _ _ => true
  | .allRows, _ => false
  | .table t, k => k.table? == some t
  | .all, _ => true

def display : Filter → String
  | .exact k => k.display
  | .tableRows t => "tableRows:" ++ t ++ ":*"
  | .allRows => "tableRows:*"
  | .table t => "*:" ++ t
  | .all => "*"

end Filter

end DbConsole

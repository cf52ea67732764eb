import DbConsole.Sql.Grammar.Select

/-!
The statements that write rows: `INSERT`, `UPDATE`, `DELETE` and `MERGE`. Each is read behind its
first word.
-/
set_option autoImplicit false

namespace DbConsole.Sql.Grammar

open DbConsole.Sql.Parser

/-- A new value for a column, or for several. -/
def assignment (r : Rules) : Parser (List Query) := do
  if ← atSymbol "(" then
    let _ ← parens names
  else
    let _ ← name
  needSymbol "="
  r.value

def assignments (r : Rules) : Parser (List Query) := do
  return (← commas (assignment r)).flatten

/-- What becomes of a row that breaks a constraint. -/
def conflictClause : Parser Unit := do
  if (← atKey ["OR"]) &&
      ["REPLACE", "ROLLBACK", "ABORT", "FAIL", "IGNORE"].contains (← keyAhead 1) then
    skipCount 2
  else
    let _ ← key "REPLACE"

/-- Rows of values, with commas between them. -/
def valueRows (r : Rules) (emptyRows : Bool) : Parser (List Query) := do
  let rows ← commas do
    let _ ← key "ROW"
    if emptyRows then optTuple r else r.tuple
  return rows.flatten

def returningClause (r : Rules) : Parser (List Query) := do
  return ((← ifKey "RETURNING" (selectItems r)).getD [])

def whereClause (r : Rules) : Parser (Option (List Query)) :=
  ifKey "WHERE" r.value

/-- The columns of an insertion, if they are given. -/
def insertColumns : Parser Unit := do
  if ← symbol "(" then
    if (← supports Dialect.isMysql) && (← atSymbol ")") then skip
    else
      let _ ← commas ident
      needSymbol ")"

/-- What an insertion does with rows that are there already. -/
def onClause (r : Rules) : Parser (List Query) := do
  if ← key "ON" then
    if ← key "CONFLICT" then
      if ← keys ["ON", "CONSTRAINT"] then
        let _ ← name
      else if ← atSymbol "(" then
        let _ ← parenIdents
      need "DO"
      if ← key "NOTHING" then return []
      needs ["UPDATE", "SET"]
      let values ← assignments r
      return values ++ (← whereClause r).getD []
    else
      needs ["DUPLICATE", "KEY", "UPDATE"]
      assignments r
  else return []

/-- The rows of an insertion. -/
def insertSource (r : Rules) : Parser (List Query) := do
  let d ← dialect
  if ← keys ["DEFAULT", "VALUES"] then return []
  let partition ← if (← atSymbol "(") && (← keyAhead 1) == "SELECT" then pure none else do
    insertColumns
    ifKey "PARTITION" r.tuple
  let rows ← if ← atKey ["FORMAT", "SETTINGS"] then pure []
    else if d.isMysql && (← atKey ["SET"]) then do
      skip
      assignments r
    else r.oneQuery
  return partition.getD [] ++ rows

def fileFormats : List String :=
  ["AVRO", "JSONFILE", "ORC", "PARQUET", "RCFILE", "SEQUENCEFILE", "TEXTFILE"]

/-- An insertion, behind its first word. The word `REPLACE`, which says what becomes of the rows
that are there already, may also be the first word itself and still to be read. -/
def insert (r : Rules) : Parser Statement := do
  let d ← dialect
  conflictClause
  if d.isMysql || d.isGeneric then
    let _ ← anyKey ["LOW_PRIORITY", "DELAYED", "HIGH_PRIORITY"]
    let _ ← key "IGNORE"
  let _ ← key "OVERWRITE"
  let _ ← key "INTO"
  let _ ← key "LOCAL"
  if ← key "DIRECTORY" then
    let _ ← literalString
    if ← keys ["STORED", "AS"] then
      let _ ← needAny fileFormats
    return .other (← r.oneQuery) []
  else
    let _ ← key "TABLE"
    let _ ← name
    if d.isPostgres then asIdent
    let source ← insertSource r
    if d.isMysql || d.isGeneric then
      if ← key "AS" then
        let _ ← name
        let _ ← optParenIdents
    let on ← onClause r
    return .insert (source ++ on ++ (← returningClause r))

def update (r : Rules) : Parser Statement := do
  conflictClause
  let table ← joined r
  let before ← ifKey "FROM" (tables r)
  need "SET"
  let values ← assignments r
  let after ← if before.isSome then pure none else ifKey "FROM" (tables r)
  let condition ← whereClause r
  let returning ← returningClause r
  let limit ← ifKey "LIMIT" r.value
  return .update condition.isSome
    (table ++ before.getD [] ++ values ++ after.getD [] ++ condition.getD [] ++ returning ++
      limit.getD [])

def limitValue (r : Rules) : Parser (List Query) := do
  if ← key "ALL" then return [] else r.value

def delete (r : Rules) : Parser Statement := do
  unless ← key "FROM" do
    unless ← supports Dialect.isGeneric do
      let _ ← names
      need "FROM"
  let from' ← tables r
  let using' ← ifKey "USING" (tables r)
  let condition ← whereClause r
  let returning ← returningClause r
  let order ← optOrderBy r
  let limit ← ifKey "LIMIT" (limitValue r)
  return .delete condition.isSome
    (from' ++ using'.getD [] ++ condition.getD [] ++ returning ++ order ++ limit.getD [])

/-- What is done with the rows of a `MERGE` that match, or that do not. -/
def mergeClause (r : Rules) : Parser (Option (List Query)) :=
  ifKey "WHEN" do
    let d ← dialect
    let missing ← key "NOT"
    need "MATCHED"
    let missingHere ← if missing then do
        if ← keys ["BY", "SOURCE"] then pure false
        else
          let _ ← keys ["BY", "TARGET"]
          pure true
      else pure false
    let condition ← ifKey "AND" r.value
    need "THEN"
    let action ← if missingHere then do
        need "INSERT"
        insertColumns
        if d.isGeneric && (← atKey ["ROW"]) then do
          skip
          pure []
        else
          need "VALUES"
          valueRows r d.isMysql
      else do
        if ← key "UPDATE" then
          need "SET"
          assignments r
        else
          need "DELETE"
          pure []
    return condition.getD [] ++ action

def merge (r : Rules) : Parser Statement := do
  let _ ← key "INTO"
  let target ← factor r
  need "USING"
  let source ← factor r
  need "ON"
  let condition ← r.value
  let clauses ← many (mergeClause r)
  let output ← match ← anyKey ["OUTPUT", "RETURNING"] with
    | none => pure []
    | some k => do
      let items ← projection r
      if k == "OUTPUT" then
        if ← key "INTO" then intoClause
      pure items
  return .merge (target.within ++ source.within ++ condition ++ clauses.flatten ++ output)

end DbConsole.Sql.Grammar

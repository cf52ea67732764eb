import DbConsole.Sql.Grammar.Pipe

/-!
Queries: common table expressions, the combination of selections, order, limits and locks. In the
place of a body a query may hold a statement that writes.
-/
set_option autoImplicit false

namespace DbConsole.Sql.Grammar

open DbConsole.Sql.Parser

def tableExpression (r : Rules) : Parser Query := do
  let _ ← ident
  unless ← key "AS" do
    aliasColumns r
    need "AS"
  if ← supports Dialect.isPostgres then
    unless ← key "MATERIALIZED" do
      let _ ← keys ["NOT", "MATERIALIZED"]
  let query ← parens r.query
  if ← key "FROM" then
    let _ ← ident
  return query

def withClause (r : Rules) : Parser (List Query) := do
  if ← key "WITH" then
    let _ ← key "RECURSIVE"
    commas (tableExpression r)
  else return []

/-- How tightly the next combination of selections binds. -/
def combinationStrength : Parser Nat := do
  let k ← keyAhead 0
  if ["UNION", "EXCEPT", "MINUS"].contains k then return 10
  else if k == "INTERSECT" then return 20
  else return 0

def simpleBody (r : Rules) : Parser Body := do
  let d ← dialect
  if (← atKey ["SELECT"]) || (d.isGeneric && (← atKey ["FROM"])) then select r
  else if ← symbol "(" then
    let query ← r.query
    needSymbol ")"
    return .nested query
  else if ← isAnyKey ["VALUES", "VALUE"] then return .values (← valueRows r d.isMysql)
  else if ← key "TABLE" then
    unless (← peek).any Token.isWord do refuse
    if (← ahead 1) == some (.symbol ".") && !(← ahead 2).any Token.isWord then refuse
    skipCount 3
    return .table
  else refuse

/-- The combinations behind a body that bind more tightly than a strength. -/
def combinations (r : Rules) : Nat → Nat → Body → Parser Body
  | 0, _, body => return body
  | n + 1, least, body => do
    let strength ← combinationStrength
    if strength ≤ least then return body
    else
      skip
      let _ ← quantifier
      let right ← simpleBody r
      let right ← combinations r n strength right
      combinations r n least (.combined body right)

def queryBody (r : Rules) : Parser Body := do
  let size := (← get).length
  let first ← simpleBody r
  combinations r size 0 first

def offsetClause (r : Rules) : Parser (List Query) := do
  if ← key "OFFSET" then
    let value ← r.value
    let _ ← anyKey ["ROW", "ROWS"]
    return value
  else return []

/-- The values that are put between the sort keys where rows are filled in. -/
def interpolation (r : Rules) : Parser (List Query) := do
  if (← supports Dialect.isGeneric) && (← atKey ["INTERPOLATE"]) then
    skip
    if ← atSymbol "(" then
      let columns ← parens (commasBefore ")" do
        let _ ← ident
        return (← ifKey "AS" r.value).getD [])
      return columns.flatten
  return []

def queryOrder (r : Rules) : Parser (List Query) := do
  if ← keys ["ORDER", "BY"] then return (← orderKeys r) ++ (← interpolation r) else return []

/-- A limit behind its word, and an offset behind it unless one stood before. -/
def limitTail (r : Rules) (offset : Option (List Query)) : Parser (List Query) := do
  let all ← atKey ["ALL"]
  let limit ← limitValue r
  if !all && offset.isNone && (← supports Dialect.limitTakesComma) && (← symbol ",") then
    return limit ++ (← r.value)
  else
    let groups ← if ← supports Dialect.isGeneric then ifKey "BY" r.values else pure none
    let later ← if offset.isNone then offsetClause r else pure []
    return limit ++ groups.getD [] ++ later

def limitClause (r : Rules) : Parser (List Query) := do
  let offset ← if ← atKey ["OFFSET"] then some <$> offsetClause r else pure none
  let limit ← ifKey "LIMIT" (limitTail r offset)
  return offset.getD [] ++ limit.getD []

def fetchClause : Parser Unit := do
  if ← key "FETCH" then
    let _ ← anyKey ["FIRST", "NEXT"]
    unless ← isAnyKey ["ROW", "ROWS"] do
      let _ ← literal
      let _ ← key "PERCENT"
      let _ ← anyKey ["ROW", "ROWS"]
    unless ← key "ONLY" do
      let _ ← keys ["WITH", "TIES"]

/-- The properties of the form in which rows are given; a comma needs none behind it. -/
def documentProperties (property : Parser Unit) : Parser Unit := do
  let _ ← many (ifSymbol "," property)

def rootName : Parser Unit := do
  if ← key "ROOT" then
    let _ ← parens literalString

/-- The markup in which rows are given, behind its keyword. -/
def markupForm : Parser Unit := do
  let mode ← needAny ["RAW", "AUTO", "EXPLICIT", "PATH"]
  if mode == "RAW" || mode == "PATH" then
    if ← atSymbol "(" then
      let _ ← parens literalString
  documentProperties do
    unless ← isAnyKey ["ELEMENTS", "TYPE"] do
      if ← key "BINARY" then need "BASE64" else rootName

/-- The document in which rows are given, behind its keyword. -/
def documentForm : Parser Unit := do
  let _ ← needAny ["AUTO", "PATH"]
  documentProperties do
    unless ← isAnyKey ["INCLUDE_NULL_VALUES", "WITHOUT_ARRAY_WRAPPER"] do rootName

def lock : Parser Unit := do
  let _ ← needAny ["UPDATE", "SHARE"]
  if ← key "OF" then
    let _ ← name
  unless ← key "NOWAIT" do
    let _ ← keys ["SKIP", "LOCKED"]

/-- Locks on the rows, behind which the form may stand in which they are given. -/
def forClauses : Parser Unit :=
  skipMany do
    if ← key "FOR" then
      if ← key "XML" then do markupForm; return false
      else if ← key "JSON" then do documentForm; return false
      else if ← key "BROWSE" then return false
      else do lock; return true
    else return false

def query (r : Rules) : Parser Query := do
  let tables ← withClause r
  if ← key "INSERT" then return ⟨tables, .statement (← insert r), []⟩
  else if ← key "UPDATE" then return ⟨tables, .statement (← update r), []⟩
  else if ← key "DELETE" then return ⟨tables, .statement (← delete r), []⟩
  else if ← key "MERGE" then return ⟨tables, .statement (← merge r), []⟩
  else
    let body ← queryBody r
    let order ← queryOrder r
    let limit ← limitClause r
    let settings ← settingsClause r
    fetchClause
    forClauses
    if (← supports Dialect.isGeneric) && (← atKey ["FORMAT"]) then
      skip
      let _ ← ident
    let steps ← steps r
    return ⟨tables, body, order ++ limit ++ settings.getD [] ++ steps⟩

end DbConsole.Sql.Grammar

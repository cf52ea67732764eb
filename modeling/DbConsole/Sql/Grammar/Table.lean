import DbConsole.Sql.Grammar.Query

/-!
Columns, constraints and options of tables.
-/
set_option autoImplicit false

namespace DbConsole.Sql.Grammar

open DbConsole.Sql.Parser

/-- Reads the keyword if it comes. The answer is whether it means something here. -/
def keyWhere (k : String) (means : Bool) : Parser Bool := do
  if ← key k then return means else return false

def sequenceOptions : Parser Unit := do
  if ← key "INCREMENT" then
    let _ ← key "BY"
    number
  limit "MINVALUE"
  limit "MAXVALUE"
  if ← key "START" then
    let _ ← key "WITH"
    number
  if ← key "CACHE" then number
  unless ← keys ["NO", "CYCLE"] do
    let _ ← key "CYCLE"
where
  limit (k : String) : Parser Unit := do
    if ← key k then number
    else
      let _ ← keys ["NO", k]

def dropBehavior : Parser Unit := do
  let _ ← anyKey ["CASCADE", "RESTRICT"]

def onCluster : Parser Unit := do
  if ← keys ["ON", "CLUSTER"] then
    let _ ← ident

/-! ### Constraints -/

def referentialAction : Parser Unit := do
  if ← isAnyKey ["RESTRICT", "CASCADE"] then return ()
  else if ← keys ["SET", "NULL"] then return ()
  else if ← keys ["NO", "ACTION"] then return ()
  else needs ["SET", "DEFAULT"]

/-- The properties of a reference, each at most once. -/
def referenceProperties : Nat → List String → Parser Unit
  | 0, _ => return ()
  | n + 1, left => do
    if left.contains "MATCH" && (← atKey ["MATCH"]) then
      skip
      let _ ← needAny ["FULL", "PARTIAL", "SIMPLE"]
      referenceProperties n (left.erase "MATCH")
    else if ← atKey ["ON"] then
      let event ← keyAhead 1
      if left.contains event then
        skipCount 2
        referentialAction
        referenceProperties n (left.erase event)
      else return ()
    else return ()

/-- When a constraint is checked, each point at most once. -/
def constraintTiming : Nat → List String → Parser Unit
  | 0, _ => return ()
  | n + 1, left => do
    let negated ← atKey ["NOT"]
    let k ← keyAhead (if negated then 1 else 0)
    if left.contains k && !(negated && k == "INITIALLY") then
      skipCount (if negated then 2 else 1)
      if k == "INITIALLY" then
        let _ ← needAny ["DEFERRED", "IMMEDIATE"]
      constraintTiming n (left.erase k)
    else return ()

def constraintCharacteristics : Parser Unit :=
  constraintTiming 4 ["DEFERRABLE", "INITIALLY", "ENFORCED"]

/-- What a key refers to. -/
def referenced : Parser Unit := do
  let _ ← name
  let _ ← optParenIdents
  referenceProperties 4 ["MATCH", "DELETE", "UPDATE"]
  constraintCharacteristics

def indexType : Parser Unit := do
  if ← key "USING" then
    let _ ← ident

def indexOptions : Parser Unit :=
  skipMany do
    if ← key "USING" then
      let _ ← ident
      return true
    else if ← key "COMMENT" then
      let _ ← literalString
      return true
    else return false

/-- A column of an index, perhaps with the class of its operators. -/
def indexColumn (r : Rules) : Parser (List Query) := do
  let value ← r.value
  unless ← atKey ["ASC", "DESC", "NULLS", "WITH"] do
    let _ ← attempt name
  orderDirection
  return value

def indexColumns (r : Rules) : Parser (List Query) := do
  return (← parens (commas (indexColumn r))).flatten

def enforcement : Parser Unit := do
  unless ← key "ENFORCED" do
    let _ ← keys ["NOT", "ENFORCED"]

/-- A constraint of a table, if one comes. -/
def tableConstraint? (r : Rules) : Parser (Option (List Query)) := do
  let d ← dialect
  let hints := d.isMysql || d.isGeneric
  let named ← ifKey "CONSTRAINT" ident
  let k ← keyAhead 0
  if k == "UNIQUE" then
    skip
    if ← isAnyKey ["KEY", "INDEX"] then
      unless hints do refuse
    if ← key "NULLS" then
      let _ ← key "NOT"
      need "DISTINCT"
    let _ ← optIdent
    keyColumns
  else if k == "PRIMARY" then
    skip
    need "KEY"
    let _ ← optIdent
    keyColumns
  else if k == "FOREIGN" then
    skip
    need "KEY"
    let _ ← optIdent
    let _ ← parenIdents
    need "REFERENCES"
    referenced
    return some []
  else if k == "CHECK" then
    skip
    let within ← parens r.value
    enforcement
    return some within
  else if (k == "INDEX" || k == "KEY") && hints && named.isNone then
    skip
    unless ← atKey ["USING"] do
      let _ ← optIdent
    indexType
    let within ← indexColumns r
    indexOptions
    return some within
  else if (k == "FULLTEXT" || k == "SPATIAL") && hints then
    if named.isSome then refuse
    skip
    let _ ← anyKey ["KEY", "INDEX"]
    let _ ← optIdent
    some <$> indexColumns r
  else if named.isSome then refuse
  else return none
where
  keyColumns : Parser (Option (List Query)) := do
    indexType
    let within ← indexColumns r
    indexOptions
    constraintCharacteristics
    return some within

/-! ### Columns -/

/-- An expression among the properties of a column. -/
def columnValue (r : Rules) : Parser (List Query) := do
  if ← atSymbol "(" then return (← standingAt .anywhere (operand r)).within
  else r.value

def identityOptions : Parser Unit := do
  if ← symbol "(" then
    sequenceOptions
    needSymbol ")"

/-- What follows `GENERATED`; nothing if it is no such property. -/
def generatedColumn (r : Rules) : Parser (Option (List Query)) := do
  if ← keys ["ALWAYS", "AS", "IDENTITY"] then do identityOptions; return some []
  else if ← keys ["BY", "DEFAULT", "AS", "IDENTITY"] then do identityOptions; return some []
  else if ← keys ["ALWAYS", "AS"] then
    if ← atSymbol "(" then
      let within ← parens (standingAt .anywhere r.value)
      unless ← key "STORED" do
        if ← supports Dialect.isPostgres then refuse
        let _ ← key "VIRTUAL"
      return some within
    else return none
  else return none

/-- A text after `COMMENT`. -/
def commentText : Parser Unit := do
  match ← next with
  | .string .single _ | .string .dollar _ => return ()
  | _ => refuse

/-- A property of a column, if one comes. Some keywords are read even where the dialect gives them
no meaning. -/
def columnProperty? (r : Rules) : Parser (Option (List Query)) := do
  let d ← dialect
  let mysql := d.isMysql || d.isGeneric
  let sqlite := d.isSqlite || d.isGeneric
  if ← keys ["CHARACTER", "SET"] then do let _ ← name; return some []
  else if ← key "COLLATE" then do let _ ← name; return some []
  else if ← keys ["NOT", "NULL"] then return some []
  else if ← key "COMMENT" then do commentText; return some []
  else if ← key "NULL" then return some []
  else if ← key "DEFAULT" then some <$> columnValue r
  else if d.isGeneric && (← atKey ["MATERIALIZED", "ALIAS"]) then do skip; some <$> columnValue r
  else if d.isGeneric && (← atKey ["EPHEMERAL"]) then
    skip
    if (← atSymbol ",") || (← atSymbol ")") then return some [] else some <$> columnValue r
  else if ← keys ["PRIMARY", "KEY"] then do constraintCharacteristics; return some []
  else if ← key "UNIQUE" then do constraintCharacteristics; return some []
  else if ← key "REFERENCES" then do referenced; return some []
  else if ← key "CHECK" then some <$> parens (standingAt .anywhere r.value)
  else if ← keyWhere "AUTO_INCREMENT" mysql then return some []
  else if ← keyWhere "AUTOINCREMENT" sqlite then return some []
  else if ← keyWhere "ASC" sqlite then return some []
  else if ← keyWhere "DESC" sqlite then return some []
  else if (← keys ["ON", "UPDATE"]) && mysql then some <$> columnValue r
  else if ← key "GENERATED" then generatedColumn r
  else if d.isGeneric && (← atKey ["OPTIONS"]) then
    return some (OptionList.queries (← optionListAfter r "OPTIONS"))
  else if ← keyWhere "AS" (mysql || d.isSqlite) then
    let within ← parens r.value
    let _ ← anyKey ["STORED", "VIRTUAL"]
    return some within
  else if ← keyWhere "SRID" mysql then some <$> columnValue r
  else if ← keyWhere "IDENTITY" d.isGeneric then
    if ← symbol "(" then
      number
      needSymbol ","
      number
      needSymbol ")"
    return some []
  else if sqlite && (← keys ["ON", "CONFLICT"]) then
    let _ ← needAny ["ROLLBACK", "ABORT", "FAIL", "IGNORE", "REPLACE"]
    return some []
  else if ← key "INVISIBLE" then return some []
  else return none

/-- Properties of a column, none of which has a name. -/
def columnProperties (r : Rules) : Parser (List Query) := do
  return (← standingAt .columnProperty (many (columnProperty? r))).flatten

/-- Properties of a column, which may have names. -/
def namedProperties (r : Rules) : Parser (List Query) := do
  let properties ← standingAt .columnProperty (many do
    let named ← ifKey "CONSTRAINT" ident
    match ← columnProperty? r with
    | some within => return some within
    | none => if named.isSome then refuse else return none)
  return properties.flatten

/-- The words after the name of a column that are no type of it, where a type may be left out. -/
def columnTypeEnds : List String :=
  ["CONSTRAINT", "PRIMARY", "NOT", "UNIQUE", "CHECK", "DEFAULT", "COLLATE", "REFERENCES",
    "GENERATED", "AS"]

def columnDefinition (r : Rules) : Parser (List Query) := do
  let _ ← ident
  let untyped ← if ← supports Dialect.isSqlite then do
      pure (!(← peek).any Token.isWord || (← atKey columnTypeEnds))
    else pure false
  unless untyped do
    let _ ← dataType r
  namedProperties r

/-- The columns and constraints of a table, if a parenthesis opens. -/
def tableElements (r : Rules) : Parser (List Query) := do
  if !(← symbol "(") then return []
  if ← symbol ")" then return []
  let elements ← commas do
    match ← tableConstraint? r with
    | some within => return within
    | none => if (← peek).any Token.isWord then columnDefinition r else refuse
  needSymbol ")"
  return elements.flatten

/-! ### Options -/

/-- The keys of options of one value. -/
def plainOptionKeys : List (List String) :=
  [["DEFAULT", "CHARSET"], ["CHARSET"], ["DEFAULT", "CHARACTER", "SET"], ["CHARACTER", "SET"],
    ["DEFAULT", "COLLATE"], ["COLLATE"], ["DATA", "DIRECTORY"], ["INDEX", "DIRECTORY"],
    ["KEY_BLOCK_SIZE"], ["ROW_FORMAT"], ["PACK_KEYS"], ["STATS_AUTO_RECALC"],
    ["STATS_PERSISTENT"], ["STATS_SAMPLE_PAGES"], ["DELAY_KEY_WRITE"], ["COMPRESSION"],
    ["ENCRYPTION"], ["MAX_ROWS"], ["MIN_ROWS"], ["AUTOEXTEND_SIZE"], ["AVG_ROW_LENGTH"],
    ["CHECKSUM"], ["CONNECTION"], ["ENGINE_ATTRIBUTE"], ["PASSWORD"],
    ["SECONDARY_ENGINE_ATTRIBUTE"], ["INSERT_METHOD"], ["AUTO_INCREMENT"]]

def plainOption : Parser Bool := do
  if ← keys ["START", "TRANSACTION"] then return true
  else if ← key "COMMENT" then
    let _ ← symbol "="
    singleString
    return true
  else if ← key "ENGINE" then
    let _ ← symbol "="
    unless (← next).isWord do refuse
    let _ ← optParenIdents
    return true
  else if ← key "TABLESPACE" then
    let _ ← symbol "="
    match ← next with
    | .word _ _ _ | .string .single _ => pure ()
    | _ => refuse
    if ← key "STORAGE" then
      let _ ← symbol "="
      match ← next with
      | .word text _ _ => unless ["DISK", "MEMORY"].contains (capitals text) do refuse
      | _ => refuse
    return true
  else if ← key "UNION" then
    let _ ← symbol "="
    let _ ← parens (commasBefore ")" ident)
    return true
  else if ← anyPhrase plainOptionKeys then
    let _ ← symbol "="
    match ← attempt literal with
    | some _ => return true
    | none => do let _ ← ident; return true
  else return false

def plainOptions : Parser Unit :=
  skipMany do
    if ← plainOption then
      let _ ← symbol ","
      return true
    else return false

/-- The words of clauses about the marks in files, and what each of them needs behind it. -/
def delimiterClauses : List (String × List String) :=
  [("FIELDS", ["TERMINATED", "BY"]), ("COLLECTION", ["ITEMS", "TERMINATED", "BY"]),
    ("MAP", ["KEYS", "TERMINATED", "BY"]), ("LINES", ["TERMINATED", "BY"]),
    ("NULL", ["DEFINED", "AS"])]

/-- The marks between the fields and rows in files. The word of a clause that does not go on ends
them. -/
def delimiters : Parser Unit :=
  skipMany do
    match ← anyKey (delimiterClauses.map Prod.fst) with
    | none => return false
    | some k =>
      if ← keys ((delimiterClauses.lookup k).getD []) then
        let _ ← ident
        if k == "FIELDS" then
          if ← keys ["ESCAPED", "BY"] then
            let _ ← ident
        return true
      else return false

/-- How rows are written into files. -/
def rowFormat : Parser Unit := do
  need "FORMAT"
  if ← key "SERDE" then
    let _ ← literalString
  else
    let _ ← key "DELIMITED"
    delimiters

/-- How the rows of a table lie in files. -/
def storageClauses (r : Rules) : Parser (List Query) := do
  let clauses ← many do
    match ← anyKey ["ROW", "STORED", "LOCATION"] with
    | some "ROW" => do rowFormat; return some []
    | some "STORED" =>
      need "AS"
      if ← key "INPUTFORMAT" then
        let input ← r.value
        need "OUTPUTFORMAT"
        return some (input ++ (← r.value))
      else
        let _ ← needAny fileFormats
        return some []
    | some _ =>
      let _ ← literalString
      return some []
    | none => optionsAfter r ["WITH", "SERDEPROPERTIES"]
  return clauses.flatten

/-- The columns by which the rows of a table are parted. -/
def partingClause (r : Rules) : Parser (List Query) := do
  return ((← ifKeys ["PARTITIONED", "BY"] (parens (commas (columnDefinition r)))).getD []).flatten

/-- How the rows of a table are clustered. -/
def clusteringClause (r : Rules) : Parser (List Query) := do
  if (← supports Dialect.isGeneric) && (← atKey ["CLUSTERED"]) then
    if ← keys ["CLUSTERED", "BY"] then
      let _ ← parenIdents
      let order ← ifKeys ["SORTED", "BY"] (parens (orderKeys r))
      need "INTO"
      numberValue
      need "BUCKETS"
      return order.getD []
  return []

/-- The options behind the columns of a new table. Options without parentheses are read only where
none in parentheses were given. -/
def tableOptions (r : Rules) : Parser (List Query) := do
  let d ← dialect
  if ← key "INHERITS" then
    let _ ← parens names
  let with' ← optionListAfter r "WITH"
  let properties ← optionListAfter r "TBLPROPERTIES"
  let partition ← if d.isPostgres || d.isGeneric then ifKeys ["PARTITION", "BY"] r.value
    else pure none
  let cluster ← if d.isGeneric then ifKeys ["CLUSTER", "BY"] r.values else pure none
  let options ← if d.isGeneric then optionListAfter r "OPTIONS" else pure none
  unless with'.any (·.given) || properties.any (·.given) || options.isSome do plainOptions
  return OptionList.queries with' ++ OptionList.queries properties ++ partition.getD [] ++
    cluster.getD [] ++ OptionList.queries options

/-- A `CREATE TABLE`, behind these words. -/
def createTable (r : Rules) : Parser Statement := do
  let d ← dialect
  let _ ← ifNotExists
  let _ ← name
  onCluster
  if ← isAnyKey ["LIKE", "ILIKE"] then
    let _ ← name
  if ← key "CLONE" then looseName
  let elements ← tableElements r
  let _ ← keys ["WITHOUT", "ROWID"]
  let parted ← partingClause r
  let clustered ← clusteringClause r
  let stored ← storageClauses r
  let options ← tableOptions r
  let primary ← if d.isGeneric then ifKeys ["PRIMARY", "KEY"] r.value else pure none
  let order ← ifKeys ["ORDER", "BY"] (tupleOrValue r)
  if ← keys ["ON", "COMMIT"] then
    unless ← key "DROP" do
      let _ ← needAny ["DELETE", "PRESERVE"]
      need "ROWS"
  let _ ← key "STRICT"
  let query ← if ← key "AS" then r.oneQuery
    else if d.isMysql && (← atKey ["SELECT"]) then r.oneQuery
    else pure []
  return .schema .create
    (elements ++ parted ++ clustered ++ stored ++ options ++ primary.getD [] ++ order.getD [] ++
      query)

end DbConsole.Sql.Grammar

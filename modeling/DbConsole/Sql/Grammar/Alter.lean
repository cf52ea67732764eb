import DbConsole.Sql.Grammar.Account

/-!
`ALTER` statements, behind that word.
-/
set_option autoImplicit false

namespace DbConsole.Sql.Grammar

open DbConsole.Sql.Parser

def owner : Parser Unit := do
  let _ ← ident

def columnPlace : Parser Unit := do
  let d ← dialect
  if d.isMysql || d.isGeneric then
    unless ← key "FIRST" do
      if ← key "AFTER" then
        let _ ← ident

/-- The query whose rows a table keeps beside its own. -/
def storedProjection (r : Rules) : Parser (List Query) := do
  need "SELECT"
  let items ← projection r
  let group ← groupClause r
  return items ++ group ++ (← queryOrder r)

/-- A column to be added, or a constraint, or partitions. -/
def addition (r : Rules) : Parser TableChange := do
  let d ← dialect
  match ← tableConstraint? r with
  | some _ =>
    let _ ← keys ["NOT", "VALID"]
    return .other
  | none =>
    if d.isGeneric && (← atKey ["PROJECTION"]) then
      skip
      let _ ← ifNotExists
      let _ ← ident
      let _ ← parens (storedProjection r)
      return .other
    else
      let _ ← ifNotExists
      let partitions ← many (ifKey "PARTITION" r.tuple)
      if partitions.isEmpty then
        let _ ← key "COLUMN"
        if d.isPostgres || d.isGeneric then
          let _ ← ifNotExists
        let _ ← columnDefinition r
        columnPlace
      return .other

def tableRename : Parser TableChange := do
  if (← supports Dialect.isPostgres) && (← atKey ["CONSTRAINT"]) then
    skip
    let _ ← ident
    need "TO"
    let _ ← ident
    return .other
  else if ← isAnyKey ["TO", "AS"] then return .rename (← name)
  else
    let _ ← key "COLUMN"
    let _ ← ident
    need "TO"
    let _ ← ident
    return .other

def removal (r : Rules) : Parser TableChange := do
  let d ← dialect
  if ← anyPhrase [["IF", "EXISTS", "PARTITION"], ["PARTITION"]] then
    let _ ← r.tuple
    return .other
  else if ← key "CONSTRAINT" then
    let _ ← ifExists
    let _ ← ident
    dropBehavior
    return .other
  else if ← keys ["PRIMARY", "KEY"] then
    dropBehavior
    return .other
  else if ← keys ["FOREIGN", "KEY"] then
    let _ ← ident
    dropBehavior
    return .other
  else if ← key "INDEX" then
    let _ ← ident
    return .other
  else if ← keyWhere "PROJECTION" d.isGeneric then
    let _ ← ifExists
    let _ ← ident
    return .other
  else if ← keys ["CLUSTERING", "KEY"] then return .other
  else
    let _ ← key "COLUMN"
    let _ ← ifExists
    let _ ← ident
    dropBehavior
    return .dropColumn

/-- The change of one column, behind `ALTER`. -/
def columnChange (r : Rules) : Parser Unit := do
  let _ ← key "COLUMN"
  let _ ← ident
  if ← keys ["SET", "NOT", "NULL"] then return ()
  else if ← keys ["DROP", "NOT", "NULL"] then return ()
  else if ← keys ["SET", "DEFAULT"] then
    let _ ← r.value
  else if ← keys ["DROP", "DEFAULT"] then return ()
  else if ← anyPhrase [["SET", "DATA", "TYPE"], ["TYPE"]] then
    let _ ← dataType r
    if ← supports Dialect.isPostgres then
      let _ ← ifKey "USING" r.value
  else
    needs ["ADD", "GENERATED"]
    unless ← key "ALWAYS" do
      let _ ← keys ["BY", "DEFAULT"]
    needs ["AS", "IDENTITY"]
    identityOptions

def partOrPartition (r : Rules) : Parser Unit := do
  let _ ← needAny ["PART", "PARTITION"]
  let _ ← r.value

/-- Rules and triggers that are switched on or off. -/
def switching (phrases : List (List String)) : Parser Unit := do
  if ← keys ["ROW", "LEVEL", "SECURITY"] then return ()
  else if ← anyPhrase phrases then
    let _ ← ident
  else refuse

/-- One change of a table. -/
def tableChange (r : Rules) : Parser TableChange := do
  let d ← dialect
  if ← key "ADD" then addition r
  else if ← key "RENAME" then tableRename
  else if ← key "DISABLE" then do switching [["RULE"], ["TRIGGER"]]; return .other
  else if ← key "ENABLE" then
    switching [["ALWAYS", "RULE"], ["ALWAYS", "TRIGGER"], ["REPLICA", "RULE"],
      ["REPLICA", "TRIGGER"], ["RULE"], ["TRIGGER"]]
    return .other
  else if (← anyPhrase [["CLEAR", "PROJECTION"], ["MATERIALIZE", "PROJECTION"]]) &&
      d.isGeneric then
    let _ ← ifExists
    let _ ← ident
    if ← keys ["IN", "PARTITION"] then
      let _ ← ident
    return .other
  else if ← key "DROP" then removal r
  else if ← key "PARTITION" then
    let _ ← r.tuple
    needs ["RENAME", "TO", "PARTITION"]
    let _ ← r.tuple
    return .other
  else if ← key "CHANGE" then
    let _ ← key "COLUMN"
    let _ ← ident
    column
  else if ← key "MODIFY" then
    let _ ← key "COLUMN"
    column
  else if ← key "ALTER" then do columnChange r; return .other
  else if ← key "SWAP" then
    need "WITH"
    let _ ← name
    return .other
  else if (d.isPostgres || d.isGeneric) && (← keys ["OWNER", "TO"]) then do owner; return .other
  else if d.isGeneric && (← isAnyKey ["ATTACH", "DETACH"]) then
    partOrPartition r
    return .other
  else if d.isGeneric && (← isAnyKey ["FREEZE", "UNFREEZE"]) then
    partOrPartition r
    if ← key "WITH" then
      need "NAME"
      let _ ← ident
    return .other
  else if ← keys ["CLUSTER", "BY"] then
    let _ ← r.tuple
    return .other
  else if ← anyPhrase [["SUSPEND", "RECLUSTER"], ["RESUME", "RECLUSTER"]] then return .other
  else if ← key "LOCK" then
    let _ ← symbol "="
    let _ ← needAny ["DEFAULT", "EXCLUSIVE", "NONE", "SHARED"]
    return .other
  else if ← key "ALGORITHM" then
    let _ ← symbol "="
    let _ ← needAny ["DEFAULT", "INSTANT", "INPLACE", "COPY"]
    return .other
  else if ← key "AUTO_INCREMENT" then
    let _ ← symbol "="
    numberValue
    return .other
  else if ← keys ["REPLICA", "IDENTITY"] then
    unless ← isAnyKey ["NONE", "FULL", "DEFAULT"] do
      needs ["USING", "INDEX"]
      let _ ← ident
    return .other
  else if ← keys ["VALIDATE", "CONSTRAINT"] then
    let _ ← ident
    return .other
  else
    match ← optionsAfter r ["SET", "TBLPROPERTIES"] with
    | some _ => return .other
    | none =>
      match ← optionsAfter r ["SET"] with
      | some _ => return .other
      | none => refuse
where
  column : Parser TableChange := do
    let _ ← ident
    let _ ← dataType r
    let _ ← columnProperties r
    columnPlace
    return .other

def alterTable (r : Rules) : Parser Statement := do
  let _ ← ifExists
  let _ ← key "ONLY"
  let table ← name
  onCluster
  let changes ← commas (tableChange r)
  if ← anyPhrase [["LOCATION"], ["SET", "LOCATION"]] then
    let _ ← ident
  return .alterTable table changes

def alterSchema (r : Rules) : Parser Unit := do
  let _ ← ifExists
  let _ ← name
  if ← keys ["SET", "OPTIONS"] then
    let _ ← parens (commasBefore ")" (option r))
  else if ← keys ["SET", "DEFAULT", "COLLATE"] then
    let _ ← r.value
  else if ← keys ["ADD", "REPLICA"] then
    let _ ← ident
    let _ ← optionListAfter r "OPTIONS"
  else if ← keys ["DROP", "REPLICA"] then
    let _ ← ident
  else if ← key "RENAME" then
    need "TO"
    let _ ← name
  else
    needs ["OWNER", "TO"]
    owner

def alterType : Parser Unit := do
  let _ ← name
  if ← keys ["RENAME", "TO"] then
    let _ ← ident
  else if ← keys ["ADD", "VALUE"] then
    let _ ← ifNotExists
    let _ ← ident
    if ← isAnyKey ["BEFORE", "AFTER"] then
      let _ ← ident
  else
    needs ["RENAME", "VALUE"]
    let _ ← ident
    need "TO"
    let _ ← ident

def alterPolicy (r : Rules) : Parser Unit := do
  let _ ← ident
  need "ON"
  let _ ← name
  if ← key "RENAME" then
    need "TO"
    let _ ← ident
  else
    if ← key "TO" then
      let _ ← commas owner
    let _ ← ifKey "USING" (parens r.value)
    let _ ← ifKeys ["WITH", "CHECK"] (parens r.value)

/-- What a connector is set to. -/
def alterConnector (r : Rules) : Parser Unit := do
  let _ ← ident
  need "SET"
  let _ ← optionsAfter r ["DCPROPERTIES"]
  if ← key "URL" then
    let _ ← literalString
  if ← key "OWNER" then
    let _ ← needAny ["USER", "ROLE"]
    let _ ← ident

def alter (r : Rules) : Parser Statement := do
  let change (p : Parser Unit) : Parser Statement := do
    p
    return .schema .alter []
  let other (p : Parser Unit) : Parser Statement := do
    p
    return .other [] []
  match ← needAny ["VIEW", "TYPE", "TABLE", "INDEX", "ROLE", "POLICY", "CONNECTOR", "ICEBERG",
      "SCHEMA", "USER"] with
  | "VIEW" =>
    let _ ← name
    let _ ← optParenIdents
    let options ← optionListAfter r "WITH"
    need "AS"
    return .schema .alter (OptionList.queries options ++ (← r.oneQuery))
  | "TYPE" => change alterType
  | "TABLE" => alterTable r
  | "ICEBERG" =>
    need "TABLE"
    alterTable r
  | "INDEX" => change do
    let _ ← name
    needs ["RENAME", "TO"]
    let _ ← name
  | "SCHEMA" => change (alterSchema r)
  | "ROLE" => other (alterRole r)
  | "POLICY" => other (alterPolicy r)
  | "CONNECTOR" => other (alterConnector r)
  | _ => other alterUser

end DbConsole.Sql.Grammar

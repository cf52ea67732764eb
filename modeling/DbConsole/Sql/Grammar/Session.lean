import DbConsole.Sql.Grammar.Drop

/-!
Statements about the session: variables, transactions, and what can be shown. Each is read behind
its first word.
-/
set_option autoImplicit false

namespace DbConsole.Sql.Grammar

open DbConsole.Sql.Parser

/-! ### Transactions -/

def transactionMode : Parser Bool := do
  if ← keys ["ISOLATION", "LEVEL"] then
    unless ← anyPhrase [["READ", "UNCOMMITTED"], ["READ", "COMMITTED"], ["REPEATABLE", "READ"],
        ["SERIALIZABLE"], ["SNAPSHOT"]] do
      refuse
    return true
  else anyPhrase [["READ", "ONLY"], ["READ", "WRITE"]]

/-- Modes of a transaction; a comma promises another one. -/
def transactionModes : Parser Unit := do
  if ← transactionMode then
    skipMany do
      if ← symbol "," then
        unless ← transactionMode do refuse
        return true
      else transactionMode

def beginTransaction : Parser Statement := do
  if ← supports Dialect.beginModifiers then
    let _ ← anyKey ["DEFERRED", "IMMEDIATE", "EXCLUSIVE", "TRY", "CATCH"]
  let _ ← anyKey ["TRANSACTION", "WORK", "TRAN"]
  transactionModes
  return .transaction

def startTransaction : Parser Statement := do
  need "TRANSACTION"
  transactionModes
  return .transaction

def chainClause : Parser Unit := do
  let _ ← anyKey ["TRANSACTION", "WORK", "TRAN"]
  if ← key "AND" then
    let _ ← key "NO"
    need "CHAIN"

def commit : Parser Statement := do
  chainClause
  return .transaction

def rollback : Parser Statement := do
  chainClause
  if ← key "TO" then
    let _ ← key "SAVEPOINT"
    let _ ← ident
  return .transaction

def savepoint : Parser Statement := do
  let _ ← ident
  return .transaction

def release : Parser Statement := do
  let _ ← key "SAVEPOINT"
  let _ ← ident
  return .transaction

/-! ### Variables -/

def optAssignmentSign : Parser Bool := do
  if ← symbol "=" then return true else key "TO"

def assignmentSign : Parser Unit := do
  unless ← optAssignmentSign do refuse

/-- One value of a variable or several. -/
def settingValues (r : Rules) : Parser (List Query) :=
  List.flatten <$> commas (do
    if ← atKey ["SELECT", "WITH"] then r.oneQuery else r.value)

def settingScope : Parser Bool :=
  isAnyKey ["LOCAL", "SESSION", "GLOBAL"]

/-- Several assignments with commas between them. -/
def settings (r : Rules) : Parser (List Query) :=
  List.flatten <$> commas (do
    let _ ← settingScope
    let _ ← name
    assignmentSign
    r.value)

def setVariable (r : Rules) : Parser (List Query) := do
  if (← supports Dialect.isGeneric) && (← atSymbol "(") then
    let _ ← parens (commas ident)
    assignmentSign
    parens (settingValues r)
  else
    let _ ← name
    assignmentSign
    settingValues r

/-- A `SET`. -/
def setStatement (r : Rules) : Parser (List Query) := do
  let d ← dialect
  let start ← get
  let hive ← key "HIVEVAR"
  let hasScope ← if hive then pure false else settingScope
  if hive then needSymbol ":"
  let role ← attempt do
    need "ROLE"
    unless ← key "NONE" do
      let _ ← ident
  if role.isSome then return []
  else if ← anyPhrase [["TIME", "ZONE"], ["TIMEZONE"]] then
    if ← optAssignmentSign then settingValues r else r.value
  else if d.setsNames && (← atKey ["NAMES"]) then
    skip
    unless ← key "DEFAULT" do
      let _ ← ident
      if ← key "COLLATE" then
        let _ ← literalString
    return []
  else if ← key "CHARACTERISTICS" then
    needs ["AS", "TRANSACTION"]
    transactionModes
    return []
  else if ← key "TRANSACTION" then
    if ← key "SNAPSHOT" then
      let _ ← literal
    else transactionModes
    return []
  else if ← key "AUTHORIZATION" then
    unless hasScope do refuse
    unless ← key "DEFAULT" do
      let _ ← ident
    return []
  else
    let several ← if d.setsSeveral then attempt (do
        if hasScope then set start
        settings r)
      else pure none
    match several with
    | some within => return within
    | none =>
      if d.setsSeveral && hasScope then set start
      setVariable r

def reset : Parser Unit := do
  unless ← key "ALL" do
    let _ ← name

/-! ### What can be shown -/

def showFilter (r : Rules) : Parser (List Query) := do
  if ← isAnyKey ["LIKE", "ILIKE"] then
    let _ ← literalString
    return []
  else if ← key "WHERE" then r.value
  else
    let _ ← attempt literalString
    return []

/-- Where what is shown is looked for. -/
def showPlace : Parser Unit := do
  if ← isAnyKey ["FROM", "IN"] then
    if ← isAnyKey ["ACCOUNT", "TABLE", "VIEW"] then
      let _ ← attempt name
    else if ← isAnyKey ["DATABASE", "SCHEMA"] then
      unless ← looksLike (unless ← anyPhrase [["STARTS", "WITH"], ["LIMIT"]] do refuse) do
        let _ ← attempt name
    else
      let _ ← name
      if ← isAnyKey ["FROM", "IN"] then
        let _ ← ident

def showOptions (r : Rules) : Parser (List Query) := do
  showPlace
  let filter ← showFilter r
  if ← keys ["STARTS", "WITH"] then
    let _ ← literal
  let limit ← ifKey "LIMIT" (limitValue r)
  if ← key "FROM" then
    let _ ← literal
  return filter ++ limit.getD []

/-- Reads the keyword, and says whether it then stands for what the server holds at the moment. -/
def showsNow (k : String) : Parser Bool := do
  if ← key k then
    let d ← dialect
    return d.isMysql || d.isGeneric
  else return false

/-- A `SHOW`. -/
def showStatement (r : Rules) : Parser Statement := do
  let found (p : Parser (List Query)) : Parser Statement := do
    return .show (← p)
  let other (p : Parser (List Query)) : Parser Statement := do
    return .other (← p) []
  let _ ← key "TERSE"
  let extended ← key "EXTENDED"
  let full ← key "FULL"
  let _ ← key "SESSION"
  let _ ← key "GLOBAL"
  let _ ← key "EXTERNAL"
  if ← isAnyKey ["COLUMNS", "FIELDS", "TABLES"] then found (showOptions r)
  else if ← keys ["MATERIALIZED", "VIEWS"] then other (showOptions r)
  else if ← key "VIEWS" then other (showOptions r)
  else if ← key "FUNCTIONS" then found (showFilter r)
  else if extended || full then refuse
  else if ← key "CREATE" then found do
    let _ ← needAny ["TABLE", "TRIGGER", "FUNCTION", "PROCEDURE", "EVENT", "VIEW"]
    let _ ← name
    return []
  else if ← key "COLLATION" then found (showFilter r)
  else if ← showsNow "VARIABLES" then found (showFilter r)
  else if ← showsNow "STATUS" then found (showFilter r)
  else if ← isAnyKey ["DATABASES", "SCHEMAS"] then found do
    let _ ← key "HISTORY"
    showOptions r
  else if ← keys ["CHARACTER", "SET"] then other (showFilter r)
  else if ← key "CHARSET" then other (showFilter r)
  else found do
    looseNames
    return []

/-- Whether a value switches an option off. -/
def switchesOff : Token → Bool
  | .word _ k _ => k == "FALSE" || k == "OFF"
  | .number text _ => text == "0"
  | .string _ text => text == "false" || text == "off"
  | _ => false

/-- One option of an explanation: what it says about a run of the statement, if anything, and the
queries in its value. -/
def explainOption (r : Rules) : Parser (Option Bool × List Query) := do
  let k ← keyAhead 0
  let option ← ident
  let said (runs : Bool) : Option Bool :=
    if k == "ANALYZE" || option.text == "analyze" then some runs else none
  if (← atSymbol ",") || (← atSymbol ")") then return (said true, [])
  else
    let off := (← peek).any switchesOff
    return (said !off, ← r.value)

/-- An `EXPLAIN` or, where `described` is set, a `DESCRIBE`. -/
def explain (r : Rules) (described : Bool) : Parser Statement := do
  let (runs, within) ←
    if !described && (← supports Dialect.explainOptions) && (← atSymbol "(") then do
      let options ← parens (commas (explainOption r))
      pure ((options.filterMap Prod.fst).getLast?.getD false, options.flatMap Prod.snd)
    else if ← keys ["QUERY", "PLAN"] then pure (false, [])
    else if ← key "ESTIMATE" then pure (false, [])
    else do
      let runs ← key "ANALYZE"
      let _ ← key "VERBOSE"
      if ← key "FORMAT" then
        let _ ← symbol "="
        let _ ← needAny ["TEXT", "GRAPHVIZ", "JSON"]
      pure (runs, [])
  match ← attempt r.statement with
  | some (.explain _ _ _) => refuse
  | some .describe => refuse
  | some operand => return .explain runs within operand
  | none =>
    let _ ← anyKey ["EXTENDED", "FORMATTED"]
    let _ ← name
    return .describe

end DbConsole.Sql.Grammar

import DbConsole.Sql.Grammar.Copy

/-!
Statements: which form a statement has is decided by its first word.
-/
set_option autoImplicit false

namespace DbConsole.Sql.Grammar

open DbConsole.Sql.Parser

/-! ### Control -/

/-- A condition and the statements under it, up to one of the keywords. -/
def guardedBlock (r : Rules) (ends : List String) : Parser (List Query × List Statement) := do
  let condition ← r.value
  need "THEN"
  return (condition, ← block r ends)

def others (blocks : List (List Query × List Statement)) : Statement :=
  .other (blocks.flatMap Prod.fst) (blocks.flatMap Prod.snd)

/-- An `ELSE` block up to `END`. -/
def elseBlock (r : Rules) : Parser (List (List Query × List Statement)) := do
  if ← key "ELSE" then return [([], ← block r ["END"])] else return []

def ifStatement (r : Rules) : Parser Statement := do
  let ends := ["ELSE", "ELSEIF", "END"]
  let first ← guardedBlock r ends
  let more ← many (ifKey "ELSEIF" (guardedBlock r ends))
  let otherwise ← elseBlock r
  needs ["END", "IF"]
  return others (first :: more ++ otherwise)

def caseStatement (r : Rules) : Parser Statement := do
  let operand ← if ← atKey ["WHEN"] then pure [] else r.value
  let ends := ["WHEN", "ELSE", "END"]
  need "WHEN"
  let first ← guardedBlock r ends
  let more ← many (ifKey "WHEN" (guardedBlock r ends))
  let otherwise ← elseBlock r
  need "END"
  let _ ← key "CASE"
  return others ((operand, []) :: first :: more ++ otherwise)

def whileStatement (r : Rules) : Parser Statement := do
  let condition ← r.value
  return .other condition (← block r ["END"])

def raise (r : Rules) : Parser (List Query) := do
  if ← keys ["USING", "MESSAGE"] then
    needSymbol "="
    r.value
  else return (← attempt r.value).getD []

/-! ### Prepared statements and cursors -/

def prepare (r : Rules) : Parser Statement := do
  let _ ← ident
  if ← atSymbol "(" then
    let _ ← parens (commas (dataType r))
  need "AS"
  return .storing [← r.statement]

def execute (r : Rules) : Parser (List Query) := do
  let _ ← name
  let parameters ←
    if ← atSymbol "(" then parens (List.flatten <$> commasBefore ")" r.value)
    else if (← atEnd) || (← atSymbol ";") || (← atKey ["USING", "OUTPUT", "DEFAULT"]) then pure []
    else r.values
  if ← key "INTO" then
    let _ ← commas ident
  let using' ← ifKey "USING" (commas (namedValue r))
  let _ ← key "OUTPUT"
  let _ ← key "DEFAULT"
  return parameters ++ (using'.getD []).flatten

def deallocate : Parser Unit := do
  let _ ← key "PREPARE"
  let _ ← ident

def declare (r : Rules) : Parser (List Query) := do
  let _ ← ident
  let _ ← key "BINARY"
  let _ ← anyKey ["INSENSITIVE", "ASENSITIVE"]
  unless ← key "SCROLL" do
    let _ ← keys ["NO", "SCROLL"]
  need "CURSOR"
  if ← isAnyKey ["WITH", "WITHOUT"] then need "HOLD"
  need "FOR"
  r.oneQuery

def fetch : Parser Unit := do
  if ← isAnyKey ["NEXT", "PRIOR", "FIRST", "LAST", "ALL"] then pure ()
  else if ← isAnyKey ["ABSOLUTE", "RELATIVE"] then numberValue
  else if ← isAnyKey ["FORWARD", "BACKWARD"] then
    unless ← key "ALL" do numberValue
  else numberValue
  let _ ← needAny ["FROM", "IN"]
  let _ ← ident
  if ← key "INTO" then
    let _ ← name

def close : Parser Unit := do
  unless ← key "ALL" do
    let _ ← ident

/-! ### Administration -/

def analyze (r : Rules) : Parser Unit := do
  let _ ← key "TABLE"
  let _ ← name
  skipMany do
    if ← key "PARTITION" then
      let _ ← parens r.values
      return true
    else if ← key "NOSCAN" then return true
    else if ← key "FOR" then
      need "COLUMNS"
      let _ ← attempt (commas ident)
      return true
    else if ← key "CACHE" then do need "METADATA"; return true
    else if ← key "COMPUTE" then do need "STATISTICS"; return true
    else return false

def vacuum : Parser Unit := do
  let _ ← key "FULL"
  let _ ← keys ["SORT", "ONLY"]
  let _ ← keys ["DELETE", "ONLY"]
  let _ ← key "REINDEX"
  let _ ← key "RECLUSTER"
  if (← attempt name).isSome then
    if ← key "TO" then
      let _ ← literal
      need "PERCENT"
    let _ ← key "BOOST"

def kill : Parser Unit := do
  unless ← isAnyKey ["CONNECTION", "QUERY"] do
    if ← key "MUTATION" then
      unless ← supports Dialect.isGeneric do refuse
  literalNat

/-- The logs and other things that may be flushed by name alone. -/
def flushables : List (List String) :=
  [["BINARY", "LOGS"], ["ENGINE", "LOGS"], ["ERROR", "LOGS"], ["GENERAL", "LOGS"], ["HOSTS"],
    ["PRIVILEGES"], ["OPTIMIZER_COSTS"], ["SLOW", "LOGS"], ["STATUS"], ["USER_RESOURCES"],
    ["LOGS"]]

/-- What follows `FLUSH TABLES`, up to a token that is no word, which is read too. -/
def flushedTables : Parser Unit :=
  skipMany do
    if ← atEnd then return false
    else if !(← peek).any Token.isWord then
      skip
      return false
    else if ← key "WITH" then
      let _ ← keys ["READ", "LOCK"]
      return true
    else if ← key "FOR" then
      let _ ← key "EXPORT"
      return true
    else
      if (← peek).any isPlainWord then
        let _ ← names
      else skip
      return true

def flush : Parser Unit := do
  let d ← dialect
  unless d.isMysql || d.isGeneric do refuse
  let _ ← anyKey ["NO_WRITE_TO_BINLOG", "LOCAL"]
  if ← anyPhrase flushables then return ()
  else if ← keys ["RELAY", "LOGS"] then
    if ← keys ["FOR", "CHANNEL"] then
      let _ ← name
  else
    need "TABLES"
    flushedTables

def lockTables : Parser Unit := do
  need "TABLES"
  let _ ← commas do
    let _ ← ident
    let _ ← aliasUnless ["READ", "WRITE", "LOW_PRIORITY"]
    if ← key "READ" then
      let _ ← key "LOCAL"
    else
      let _ ← key "LOW_PRIORITY"
      need "WRITE"

def pragma : Parser Unit := do
  let value : Parser Unit := do
    if (← literal) matches .constant | .markedText then refuse
  let _ ← name
  if ← atSymbol "(" then parens value
  else
    let _ ← ifSymbol "=" value

def attach (r : Rules) : Parser (List Query) := do
  let _ ← key "DATABASE"
  let file ← r.value
  need "AS"
  let _ ← ident
  return file

def detach : Parser Unit := do
  let _ ← key "DATABASE"
  let _ ← ifExists
  let _ ← ident

def repair : Parser Unit := do
  let _ ← key "REPAIR"
  need "TABLE"
  let _ ← name
  let _ ← attempt do
    let _ ← anyKey ["ADD", "DROP", "SYNC"]
    need "PARTITIONS"

def cacheTable (r : Rules) : Parser (List Query) := do
  unless ← key "TABLE" do
    let _ ← name
    need "TABLE"
  let _ ← name
  let options ← optionListAfter r "OPTIONS"
  if ← atEnd then return OptionList.queries options
  else
    unless (← peek).any Token.isWord do refuse
    let _ ← key "AS"
    return (← r.query) :: OptionList.queries options

def uncacheTable : Parser Unit := do
  need "TABLE"
  let _ ← ifExists
  let _ ← name

def discard : Parser Unit := do
  let _ ← needAny ["ALL", "PLANS", "SEQUENCES", "TEMP", "TEMPORARY"]

def assertion (r : Rules) : Parser (List Query) := do
  let condition ← r.value
  let message ← ifKey "AS" r.value
  return condition ++ message.getD []

def unload (r : Rules) : Parser (List Query) := do
  let source ← parens do
    match ← peek with
    | some (.string .single _) =>
      let _ ← literalString
      return []
    | _ => r.oneQuery
  need "TO"
  let _ ← ident
  if ← key "IAM_ROLE" then fileRole
  let options ← optionListAfter r "WITH"
  looseCopyOptions
  return source ++ OptionList.queries options

def optimize (r : Rules) : Parser Unit := do
  need "TABLE"
  let _ ← name
  onCluster
  if ← key "PARTITION" then
    if ← key "ID" then
      let _ ← ident
    else
      let _ ← r.value
  let _ ← key "FINAL"
  if ← key "DEDUPLICATE" then
    let _ ← ifKey "BY" r.value

def commentTargets : List String :=
  ["COLUMN", "DATABASE", "DOMAIN", "EXTENSION", "FUNCTION", "PROCEDURE", "ROLE", "SCHEMA",
    "SEQUENCE", "TABLE", "TYPE", "USER", "VIEW"]

def comment : Parser Statement := do
  let _ ← ifExists
  need "ON"
  unless ← keys ["MATERIALIZED", "VIEW"] do
    let _ ← needAny commentTargets
  let _ ← name
  need "IS"
  unless ← key "NULL" do
    let _ ← literalString
  return .schema .comment []

def renameTables : Parser Statement := do
  need "TABLE"
  let renames ← commas do
    let old ← name
    need "TO"
    return (old, ← name)
  return .renameTables renames

def callStatement (r : Rules) : Parser (List Query) := do
  let _ ← name
  if ← atSymbol "(" then call r else return []

def raiseError (r : Rules) : Parser (List Query) := do
  let within ← parens (commas r.value)
  if within.length < 3 then refuse
  if ← key "WITH" then
    let _ ← commas (needAny ["LOG", "NOWAIT", "SETERROR"])
  return within.flatten

def exportData (r : Rules) : Parser (List Query) := do
  need "DATA"
  if ← keys ["WITH", "CONNECTION"] then
    let _ ← name
  need "OPTIONS"
  let options ← parens (commas (option r))
  need "AS"
  return (← r.query) :: options.flatten

def notify : Parser Unit := do
  let _ ← ident
  let _ ← ifSymbol "," literalString

def unlisten : Parser Unit := do
  unless ← symbol "*" do
    let _ ← ident

/-! ### Any statement -/

/-- The statement that a keyword begins, behind that keyword; nothing if it begins none. -/
def statementAfter? (r : Rules) (d : Dialect) (k : String) : Option (Parser Statement) :=
  let other (p : Parser Unit) : Option (Parser Statement) := some do
    p
    return .other [] []
  let holding (p : Parser (List Query)) : Option (Parser Statement) := some do
    return .other (← p) []
  let only (b : Bool) (p : Option (Parser Statement)) : Option (Parser Statement) :=
    if b then p else none
  match k with
  | "KILL" => other kill
  | "FLUSH" => other flush
  | "DESC" | "DESCRIBE" => some (explain r true)
  | "EXPLAIN" => some (explain r false)
  | "ANALYZE" => other (analyze r)
  | "CASE" => some (caseStatement r)
  | "IF" => some (ifStatement r)
  | "WHILE" => some (whileStatement r)
  | "RAISE" => holding (raise r)
  | "TRUNCATE" => some (truncate r)
  | "ATTACH" => holding (attach r)
  | "DETACH" => only d.isGeneric (other detach)
  | "MSCK" => other repair
  | "CREATE" => some (create r)
  | "CACHE" => holding (cacheTable r)
  | "DROP" => some (drop r)
  | "DISCARD" => other discard
  | "DECLARE" => holding (declare r)
  | "FETCH" => other fetch
  | "DELETE" => some (delete r)
  | "INSERT" => some (insert r)
  | "REPLACE" => only (d.isMysql || d.isGeneric) (some (insert r))
  | "UNCACHE" => other uncacheTable
  | "UPDATE" => some (update r)
  | "ALTER" => some (alter r)
  | "CALL" => holding (callStatement r)
  | "COPY" => some (copy r)
  | "OPEN" => other (do let _ ← ident)
  | "CLOSE" => other close
  | "SET" => holding (setStatement r)
  | "SHOW" => some (showStatement r)
  | "USE" => other (do let _ ← name)
  | "GRANT" => other (grant r)
  | "DENY" => other (deny r)
  | "REVOKE" => other (revoke r)
  | "START" => some startTransaction
  | "BEGIN" => some beginTransaction
  | "END" | "COMMIT" => some commit
  | "SAVEPOINT" => some savepoint
  | "RELEASE" => some release
  | "RAISERROR" => holding (raiseError r)
  | "ROLLBACK" => some rollback
  | "ASSERT" => holding (assertion r)
  | "DEALLOCATE" => other deallocate
  | "EXECUTE" | "EXEC" => holding (execute r)
  | "PREPARE" => some (prepare r)
  | "MERGE" => some (merge r)
  | "LISTEN" => only d.isPostgres (other (do let _ ← ident))
  | "UNLISTEN" => only d.isPostgres (other unlisten)
  | "NOTIFY" => only d.isPostgres (other notify)
  | "PRAGMA" => other pragma
  | "UNLOAD" => holding (unload r)
  | "RENAME" => some renameTables
  | "INSTALL" => only d.isGeneric (other (do let _ ← ident))
  | "LOAD" => only (d.isGeneric || d.isPostgres) (other (do let _ ← ident))
  | "OPTIMIZE" => only d.isGeneric (other (optimize r))
  | "COMMENT" => only d.commentsOn (some comment)
  | "PRINT" => holding r.value
  | "RETURN" => holding (do return (← attempt r.value).getD [])
  | "EXPORT" => holding (exportData r)
  | "VACUUM" => other vacuum
  | "RESET" => other reset
  | "LOCK" => only d.isMysql (other lockTables)
  | "UNLOCK" => only d.isMysql (other (need "TABLES"))
  | _ => none

def statement (r : Rules) : Parser Statement := do
  if (← atSymbol "(") || (← atKey ["SELECT", "WITH", "VALUES", "FROM"]) then
    return .query (← r.query)
  else if (← supports Dialect.isSqlite) && (← atKey ["REPLACE"]) then insert r
  else
    match statementAfter? r (← dialect) (← keyAhead 0) with
    | some p => do skip; p
    | none => refuse

/-- The rules for what is nested at most so deep. -/
def rulesAt : Nat → Rules
  | 0 => ⟨fun _ => tooDeep, tooDeep, tooDeep, tooDeep⟩
  | n + 1 =>
    let r := rulesAt n
    ⟨expression r, query r, statement r, columnDefinition r⟩

/-- How deep statements, queries and expressions may be nested. -/
def maxDepth : Nat := 50

/-- The statements of a batch, between which semicolons stand. An `END` behind a statement ends
the batch, whatever follows. `due` says whether a semicolon has to come first. -/
def batch : Nat → Bool → Parser (List Statement)
  | 0, _ => refuse
  | n + 1, due => do
    if ← symbol ";" then batch n false
    else if ← atEnd then return []
    else if due then
      if ← atKey ["END"] then return [] else refuse
    else
      let s ← (rulesAt maxDepth).statement
      return s :: (← batch n true)

end DbConsole.Sql.Grammar

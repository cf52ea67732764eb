import DbConsole.Sql.Grammar.Alter
import DbConsole.Sql.Grammar.Operator
import DbConsole.Sql.Grammar.Table

/-!
`CREATE` statements other than those of tables, behind that word; of types there are lists of words,
ranges, rows of attributes and those written from scratch.
-/
set_option autoImplicit false

namespace DbConsole.Sql.Grammar

open DbConsole.Sql.Parser

/-- The functions and objects that make a range of a type. -/
def rangeParts : List String :=
  ["SUBTYPE_OPCLASS", "COLLATION", "CANONICAL", "SUBTYPE_DIFF", "MULTIRANGE_TYPE_NAME"]

def rangeOption (r : Rules) : Parser Unit := do
  let k ← needAny ("SUBTYPE" :: rangeParts)
  needSymbol "="
  if k == "SUBTYPE" then
    let _ ← dataType r
  else
    let _ ← name

/-- The functions that a type written from scratch is made of. -/
def typeFunctions : List String :=
  ["INPUT", "OUTPUT", "RECEIVE", "SEND", "TYPMOD_IN", "TYPMOD_OUT", "ANALYZE", "SUBSCRIPT"]

/-- A property of a type written from scratch, behind its keyword; a truth may be left out. -/
def typePropertyAfter (r : Rules) (k : String) : Parser Unit := do
  unless k == "PASSEDBYVALUE" do needSymbol "="
  match k with
  | "PASSEDBYVALUE" => return ()
  | "INTERNALLENGTH" =>
    unless ← key "VARIABLE" do literalNat
  | "ALIGNMENT" =>
    let _ ← needAny ["CHAR", "INT2", "INT4", "DOUBLE"]
  | "STORAGE" =>
    let _ ← needAny ["PLAIN", "EXTERNAL", "EXTENDED", "MAIN"]
  | "LIKE" | "ELEMENT" =>
    let _ ← dataType r
  | "CATEGORY" =>
    if (← literalString).isEmpty then refuse
  | "PREFERRED" | "COLLATABLE" =>
    let _ ← anyKey ["TRUE", "FALSE"]
  | "DEFAULT" =>
    let _ ← r.value
  | "DELIMITER" =>
    let _ ← literalString
  | _ =>
    let _ ← name

def typeProperty (r : Rules) : Parser Unit := do
  let k ← needAny (typeFunctions ++ ["INTERNALLENGTH", "PASSEDBYVALUE", "ALIGNMENT", "STORAGE",
    "LIKE", "CATEGORY", "PREFERRED", "DEFAULT", "ELEMENT", "DELIMITER", "COLLATABLE"])
  typePropertyAfter r k

def typeAttribute (r : Rules) : Parser Unit := do
  let _ ← ident
  let _ ← dataType r
  if ← key "COLLATE" then
    let _ ← name

def createType (r : Rules) : Parser Unit := do
  let _ ← name
  if ← key "AS" then
    if ← key "ENUM" then
      let _ ← parens (commasBefore ")" ident)
    else if ← key "RANGE" then
      let _ ← parens (commasBefore ")" (rangeOption r))
    else
      let _ ← parens (commasBefore ")" (typeAttribute r))
  else if ← atSymbol "(" then
    let _ ← parens (commasBefore ")" (typeProperty r))

/-! ### Statements -/

/-- Who a privilege is given to, or who something belongs to. -/
def granteeName : Parser Unit := do
  let whole ← name
  if whole.length == 1 && (← supports Dialect.userAtHost) then
    if ← symbol "@" then
      let _ ← ident

/-- How a view is run, and for whom. -/
def viewParameters : Parser Unit := do
  if ← key "ALGORITHM" then
    needSymbol "="
    let _ ← needAny ["UNDEFINED", "MERGE", "TEMPTABLE"]
  if ← key "DEFINER" then
    needSymbol "="
    granteeName
  if ← keys ["SQL", "SECURITY"] then
    let _ ← needAny ["DEFINER", "INVOKER"]

def createView (r : Rules) : Parser Statement := do
  let d ← dialect
  let _ ← key "SECURE"
  let _ ← key "MATERIALIZED"
  need "VIEW"
  let first ← ifNotExists
  let _ ← name
  unless first do
    let _ ← ifNotExists
  if ← atSymbol "(" then
    let _ ← parens (commasBefore ")" do
      let _ ← ident
      columnProperties r)
  let options ← optionListAfter r "WITH"
  if ← key "CLUSTER" then
    need "BY"
    let _ ← optParenIdents
  if d.isGeneric then
    let _ ← optionListAfter r "OPTIONS"
    if ← key "TO" then
      let _ ← name
    if ← key "COMMENT" then
      needSymbol "="
      commentText
  need "AS"
  let query ← r.query
  if d.isGeneric then
    let _ ← keys ["WITH", "NO", "SCHEMA", "BINDING"]
  return .schema .create (query :: OptionList.queries options)

def createIndex (r : Rules) : Parser Statement := do
  let d ← dialect
  let _ ← key "CONCURRENTLY"
  let guarded ← ifNotExists
  if guarded || !(← atKey ["ON"]) then
    let _ ← name
    indexType
  need "ON"
  let _ ← name
  indexType
  let columns ← indexColumns r
  if ← key "INCLUDE" then
    let _ ← parenIdents
  if ← key "NULLS" then
    let _ ← key "NOT"
    need "DISTINCT"
  let options ← if d.isPostgres || d.isGeneric then ifKey "WITH" r.tuple
    else pure none
  let condition ← whereClause r
  indexOptions
  skipMany do
    if ← atKey ["ALGORITHM", "LOCK"] then
      let _ ← tableChange r
      return true
    else return false
  return .schema .create (columns ++ options.getD [] ++ condition.getD [])

def createSchema (r : Rules) : Parser Unit := do
  let _ ← ifNotExists
  if ← key "AUTHORIZATION" then
    let _ ← ident
  else
    let _ ← name
    if ← key "AUTHORIZATION" then
      let _ ← ident
  if ← keys ["DEFAULT", "COLLATE"] then
    let _ ← r.value
  let _ ← optionListAfter r "WITH"
  let _ ← optionListAfter r "OPTIONS"
  if ← key "CLONE" then
    let _ ← name

def createDatabase : Parser Unit := do
  let _ ← ifNotExists
  let _ ← name
  skipMany do
    if ← isAnyKey ["LOCATION", "MANAGEDLOCATION"] then
      let _ ← literalString
      return true
    else return false
  if ← key "CLONE" then
    let _ ← name

def createSequence (r : Rules) : Parser Unit := do
  let _ ← ifNotExists
  let _ ← name
  if ← key "AS" then
    let _ ← dataType r
  sequenceOptions
  if ← keys ["OWNED", "BY"] then
    unless ← key "NONE" do
      let _ ← name

/-- A parameter: its type, before which its name may stand. -/
def functionParameter (r : Rules) : Parser Unit := do
  let _ ← anyKey ["IN", "OUT", "INOUT"]
  let before ← get
  let _ ← dataType r
  let width := before.length - (← get).length
  let typed ← if ← atKey ["DEFAULT"] then pure false else do
    pure (← attempt (dataType r)).isSome
  if typed then
    unless before[width - 1]?.any (·.token.isWord) do refuse
  if ← key "DEFAULT" then
    let _ ← r.value
  else
    let _ ← ifSymbol "=" r.value

/-- A function with the types of its parameters, if these are given. -/
def functionSignature (r : Rules) : Parser Unit := do
  let _ ← name
  if ← atSymbol "(" then
    let _ ← parens (commasBefore ")" (functionParameter r))

/-- The text of a function. -/
def functionText : Parser Unit := do
  match ← peek with
  | some (.string .dollar _) => skip
  | _ =>
    let _ ← literalString

/-- One clause of a function, named so that it may not come twice. -/
def functionClause (r : Rules) : Parser (Option String) := do
  if ← key "AS" then
    functionText
    if ← symbol "," then functionText
    return some "body"
  else if ← key "LANGUAGE" then do let _ ← ident; return some "language"
  else if ← isAnyKey ["IMMUTABLE", "STABLE", "VOLATILE"] then return some "behavior"
  else if ← anyPhrase [["CALLED", "ON", "NULL", "INPUT"],
      ["RETURNS", "NULL", "ON", "NULL", "INPUT"], ["STRICT"]] then return some "nulls"
  else if ← key "PARALLEL" then
    let _ ← needAny ["UNSAFE", "RESTRICTED", "SAFE"]
    return some "parallel"
  else if ← key "RETURN" then do let _ ← r.value; return some "body"
  else return none

def createFunction (r : Rules) : Parser Unit := do
  let d ← dialect
  unless d.isPostgres || d.isGeneric do refuse
  let _ ← name
  let _ ← parens (commasBefore ")" (functionParameter r))
  if ← key "RETURNS" then
    let _ ← dataType r
  let clauses ← many (functionClause r)
  unless clauses.eraseDups.length == clauses.length do refuse

/-- Statements up to one of the keywords, each with a semicolon behind it. -/
def statementsBefore (r : Rules) (ends : List String) : Parser (List Statement) :=
  many do
    if (← atEnd) || (← atKey ends) then return none
    else
      let s ← r.statement
      needSymbol ";"
      return some s

/-- Statements as above, or between `BEGIN` and `END`. -/
def block (r : Rules) (ends : List String) : Parser (List Statement) := do
  if ← key "BEGIN" then
    let statements ← statementsBefore r ends
    need "END"
    return statements
  else statementsBefore r ends

def triggerEvent : Parser Unit := do
  match ← needAny ["INSERT", "UPDATE", "DELETE", "TRUNCATE"] with
  | "UPDATE" =>
    if ← key "OF" then
      let _ ← commas ident
  | _ => return ()

def createTrigger (r : Rules) : Parser Unit := do
  let _ ← name
  unless ← anyPhrase [["FOR"], ["BEFORE"], ["AFTER"]] do
    let _ ← keys ["INSTEAD", "OF"]
  triggerEvent
  let _ ← many (ifKey "OR" triggerEvent)
  need "ON"
  let _ ← name
  if ← key "FROM" then looseName
  constraintCharacteristics
  if ← key "REFERENCING" then
    skipMany do
      if (← isAnyKey ["OLD", "NEW"]) && (← key "TABLE") then
        let _ ← key "AS"
        let _ ← name
        return true
      else return false
  if ← key "FOR" then
    let _ ← key "EACH"
    let _ ← needAny ["ROW", "STATEMENT"]
  let _ ← ifKey "WHEN" r.value
  if ← key "EXECUTE" then
    let _ ← needAny ["FUNCTION", "PROCEDURE"]
    functionSignature r
  else
    let _ ← block r ["END"]

def createDomain (r : Rules) : Parser Unit := do
  let _ ← name
  need "AS"
  let _ ← dataType r
  if ← key "COLLATE" then
    let _ ← ident
  let _ ← ifKey "DEFAULT" r.value
  let _ ← many (tableConstraint? r)

def createExtension : Parser Unit := do
  let _ ← ifNotExists
  let _ ← ident
  if ← key "WITH" then
    if ← key "SCHEMA" then
      let _ ← ident
    if ← key "VERSION" then
      let _ ← ident
    let _ ← key "CASCADE"

def createVirtualTable : Parser Unit := do
  need "TABLE"
  let _ ← ifNotExists
  let _ ← name
  need "USING"
  let _ ← ident
  let _ ← optParenIdents

def procedureParameter (r : Rules) : Parser Unit := do
  let _ ← anyKey ["IN", "OUT", "INOUT"]
  let _ ← ident
  let _ ← dataType r
  let _ ← ifSymbol "=" r.value

/-- Parameters up to the closing parenthesis; between two commas there may be none. -/
def procedureParameters (r : Rules) : Parser Unit := do
  skipMany do
    if (← peek).any Token.isWord then procedureParameter r
    let comma ← symbol ","
    if ← atSymbol ")" then return false
    else if comma then return true
    else refuse
  needSymbol ")"

def createProcedure (r : Rules) : Parser Statement := do
  let _ ← name
  if ← symbol "(" then procedureParameters r
  if ← key "LANGUAGE" then
    let _ ← ident
  need "AS"
  return .storing (← block r ["END"])

def createPolicy (r : Rules) : Parser Unit := do
  let _ ← ident
  need "ON"
  let _ ← name
  if ← key "AS" then
    let _ ← needAny ["PERMISSIVE", "RESTRICTIVE"]
  if ← key "FOR" then
    let _ ← needAny ["ALL", "SELECT", "INSERT", "UPDATE", "DELETE"]
  if ← key "TO" then
    let _ ← commas owner
  let _ ← ifKey "USING" (parens r.value)
  let _ ← ifKeys ["WITH", "CHECK"] (parens r.value)

def createConnector (r : Rules) : Parser Unit := do
  let _ ← ifNotExists
  let _ ← ident
  for k in ["TYPE", "URL"] do
    if ← key k then
      let _ ← literalString
  if ← key "COMMENT" then
    let _ ← symbol "="
    commentText
  let _ ← optionsAfter r ["WITH", "DCPROPERTIES"]

def createServer : Parser Unit := do
  let _ ← ifNotExists
  let _ ← name
  for k in ["TYPE", "VERSION"] do
    if ← key k then
      let _ ← ident
  needs ["FOREIGN", "DATA", "WRAPPER"]
  let _ ← name
  if ← key "OPTIONS" then
    let _ ← parens (commas do
      let _ ← ident
      ident)

def createExternalTable (r : Rules) : Parser Statement := do
  need "TABLE"
  let _ ← ifNotExists
  let _ ← name
  let elements ← tableElements r
  let parted ← partingClause r
  let stored ← storageClauses r
  let options ← optionListAfter r "TBLPROPERTIES"
  return .schema .create (elements ++ parted ++ stored ++ OptionList.queries options)

/-- A macro: an expression or a query under a name. -/
def createMacro (r : Rules) : Parser Statement := do
  unless ← supports Dialect.isGeneric do refuse
  let _ ← name
  let _ ← parens (commasBefore ")" do
    let _ ← ident
    if (← symbol ":=") || (← symbol "=>") then
      let _ ← r.value)
  need "AS"
  if ← key "TABLE" then return .other (← r.oneQuery) []
  else return .other (← r.value) []

/-- A name where one is expected; whether it was one. -/
def looseIdent : Parser Bool := do
  let found := (← peek).any fun t => (identOf? t).isSome
  skip
  return found

/-- A secret: what it is called and where it is kept may be left out. -/
def createSecret : Parser Unit := do
  let _ ← ifNotExists
  unless ← atSymbol "(" do
    let placed ← if ← key "IN" then looseIdent else do
      let _ ← looseIdent
      pure false
    unless placed || (← atSymbol "(") do
      if ← key "IN" then
        let _ ← looseIdent
  parens do
    need "TYPE"
    let _ ← ident
    let _ ← ifSymbol "," (commas do
      let _ ← ident
      ident)

/-- What is created only without `OR REPLACE`. -/
def createOnce (r : Rules) : Parser Statement := do
  let change (p : Parser Unit) : Parser Statement := do
    p
    return .schema .create []
  let other (p : Parser Unit) : Parser Statement := do
    p
    return .other [] []
  if ← key "EXTENSION" then other createExtension
  else if ← key "INDEX" then createIndex r
  else if ← keys ["UNIQUE", "INDEX"] then createIndex r
  else
    match ← needAny ["VIRTUAL", "SCHEMA", "DATABASE", "ROLE", "SEQUENCE", "TYPE", "PROCEDURE",
        "CONNECTOR", "OPERATOR", "SERVER"] with
    | "VIRTUAL" => change createVirtualTable
    | "SCHEMA" => change (createSchema r)
    | "DATABASE" => change createDatabase
    | "SEQUENCE" => change (createSequence r)
    | "TYPE" => change (createType r)
    | "ROLE" => other createRole
    | "OPERATOR" => other (createOperator r)
    | "PROCEDURE" => createProcedure r
    | "CONNECTOR" => other (createConnector r)
    | _ => other createServer

def create (r : Rules) : Parser Statement := do
  let change (p : Parser Unit) : Parser Statement := do
    p
    return .schema .create []
  let other (p : Parser Unit) : Parser Statement := do
    p
    return .other [] []
  let replaces ← keys ["OR", "REPLACE"]
  let _ ← keys ["OR", "ALTER"]
  let _ ← key "LOCAL"
  let _ ← key "GLOBAL"
  let _ ← key "TRANSIENT"
  let _ ← anyKey ["TEMP", "TEMPORARY"]
  viewParameters
  if ← key "TABLE" then createTable r
  else if ← atKey ["MATERIALIZED", "VIEW"] then createView r
  else if (← atKey ["SECURE"]) && ["MATERIALIZED", "VIEW"].contains (← keyAhead 1) then
    createView r
  else if ← key "POLICY" then other (createPolicy r)
  else if ← key "EXTERNAL" then createExternalTable r
  else if ← key "FUNCTION" then change (createFunction r)
  else if ← key "DOMAIN" then other (createDomain r)
  else if ← key "TRIGGER" then change (createTrigger r)
  else if ← keys ["CONSTRAINT", "TRIGGER"] then change (createTrigger r)
  else if ← key "MACRO" then createMacro r
  else if ← key "SECRET" then other createSecret
  else if ← key "USER" then other createUser
  else if replaces then refuse
  else createOnce r

end DbConsole.Sql.Grammar

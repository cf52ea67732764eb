import DbConsole.Sql.Grammar.Privilege

/-!
`COPY`, behind that word.
-/
set_option autoImplicit false

namespace DbConsole.Sql.Grammar

open DbConsole.Sql.Parser

/-- A string of one byte. -/
def literalChar : Parser Unit := do
  unless (← literalString).utf8ByteSize == 1 do refuse

def copyOption : Parser Unit := do
  if ← key "FORMAT" then
    let _ ← ident
  else if ← isAnyKey ["FREEZE", "HEADER"] then
    let _ ← anyKey ["TRUE", "FALSE"]
  else if ← isAnyKey ["DELIMITER", "QUOTE", "ESCAPE"] then literalChar
  else if ← isAnyKey ["NULL", "ENCODING"] then
    let _ ← literalString
  else if ← isAnyKey ["FORCE_QUOTE", "FORCE_NOT_NULL", "FORCE_NULL"] then
    let _ ← parenIdents
  else refuse

/-- An option of the older form for separated values. -/
def separatedOption : Parser Unit := do
  if ← key "HEADER" then return ()
  else if ← isAnyKey ["QUOTE", "ESCAPE"] then
    let _ ← key "AS"
    literalChar
  else if ← anyPhrase [["FORCE", "QUOTE"], ["FORCE", "NOT", "NULL"]] then
    let _ ← commas ident
  else refuse

/-- A string in single quotes, if one comes. -/
def optQuoted : Parser Unit := do
  match ← peek with
  | some (.string .single _) => skip
  | _ => return ()

def optSwitch : Parser Unit := do
  let _ ← anyKey ["TRUE", "FALSE", "ON", "OFF"]

def fileSize : Parser Unit := do
  numberValue
  let _ ← anyKey ["MB", "GB"]

/-- The role under which files are read and written. -/
def fileRole : Parser Unit := do
  unless ← key "DEFAULT" do
    let _ ← literalString

/-- The options of the older form that are a keyword alone. -/
def looseCopyFlags : List String :=
  ["ACCEPTANYDATE", "ADDQUOTES", "ALLOWOVERWRITE", "BINARY", "BLANKSASNULL", "BZIP2", "CLEANPATH",
    "EMPTYASNULL", "ESCAPE", "GZIP", "HEADER", "JSON", "PARQUET", "REMOVEQUOTES",
    "TRUNCATECOLUMNS", "ZSTD"]

/-- An option of the older form. -/
def looseCopyOption : Parser Unit := do
  if ← key "FORMAT" then
    let _ ← key "AS"
  if ← isAnyKey looseCopyFlags then return ()
  else if ← isAnyKey ["ACCEPTINVCHARS", "DATEFORMAT", "TIMEFORMAT"] then
    let _ ← key "AS"
    optQuoted
  else if ← key "COMPUPDATE" then
    let _ ← key "PRESET"
    optSwitch
  else if ← isAnyKey ["PARALLEL", "STATUPDATE"] then optSwitch
  else if ← isAnyKey ["CREDENTIALS", "EXTENSION", "FIXEDWIDTH"] then
    let _ ← literalString
  else if ← isAnyKey ["NULL", "REGION"] then
    let _ ← key "AS"
    let _ ← literalString
  else if ← key "DELIMITER" then
    let _ ← key "AS"
    literalChar
  else if ← key "IGNOREHEADER" then
    let _ ← key "AS"
    literalNat
  else if ← isAnyKey ["MAXFILESIZE", "ROWGROUPSIZE"] then
    let _ ← key "AS"
    fileSize
  else if ← key "ENCRYPTED" then
    let _ ← key "AUTO"
  else if ← key "MANIFEST" then
    let _ ← key "VERBOSE"
  else if ← key "IAM_ROLE" then fileRole
  else if ← key "PARTITION" then
    need "BY"
    let _ ← parenIdents
    let _ ← key "INCLUDE"
  else
    need "CSV"
    let _ ← many (attempt separatedOption)

def looseCopyOptions : Parser Unit := do
  let _ ← many (attempt looseCopyOption)

/-- Skips the rows that are copied in, up to the mark of their end. -/
def copiedRows : Parser Unit :=
  skipMany do
    if ← atEnd then return false
    else if ← symbol "\\" then
      if ← symbol "." then return false
      else
        skip
        return true
    else
      skip
      return true

def copy (r : Rules) : Parser Statement := do
  let source ← if ← atSymbol "(" then some <$> parens r.query else do
    let _ ← name
    let _ ← optParenIdents
    pure none
  if (← needAny ["FROM", "TO"]) == "FROM" && source.isSome then refuse
  let typed ← key "STDIN"
  unless typed do
    unless ← key "STDOUT" do
      let _ ← key "PROGRAM"
      let _ ← literalString
  let _ ← key "WITH"
  if ← atSymbol "(" then
    let _ ← parens (commas copyOption)
  looseCopyOptions
  if typed then
    needSymbol ";"
    copiedRows
  return .copy source.toList

end DbConsole.Sql.Grammar

import DbConsole.Sql.Grammar.Session

/-!
`GRANT`, `DENY` and `REVOKE`, behind these words.
-/
set_option autoImplicit false

namespace DbConsole.Sql.Grammar

open DbConsole.Sql.Parser

/-- Privileges of several words. -/
def privilegePhrases : List (List String) :=
  [["IMPORTED", "PRIVILEGES"], ["ADD", "SEARCH", "OPTIMIZATION"], ["ATTACH", "LISTING"],
    ["ATTACH", "POLICY"], ["BIND", "SERVICE", "ENDPOINT"], ["EVOLVE", "SCHEMA"],
    ["IMPORT", "SHARE"], ["MANAGE", "VERSIONS"], ["MANAGE", "RELEASES"],
    ["OVERRIDE", "SHARE", "RESTRICTIONS"], ["PURCHASE", "DATA", "EXCHANGE", "LISTING"],
    ["RESOLVE", "ALL"], ["READ", "SESSION"]]

def privilegeWords : List String :=
  ["APPLYBUDGET", "AUDIT", "CONNECT", "DELETE", "DROP", "FAILOVER", "OPERATE", "OWNERSHIP", "READ",
    "REPLICATE", "TEMPORARY", "TRIGGER", "TRUNCATE", "USAGE"]

/-- What may be applied under a privilege. -/
def applicables : List (List String) :=
  [["AGGREGATION", "POLICY"], ["AUTHENTICATION", "POLICY"], ["JOIN", "POLICY"],
    ["MASKING", "POLICY"], ["PACKAGES", "POLICY"], ["PASSWORD", "POLICY"],
    ["PROJECTION", "POLICY"], ["ROW", "ACCESS", "POLICY"], ["SESSION", "POLICY"], ["TAG"]]

/-- The objects that may be created under a privilege. -/
def creatableObjects : List (List String) :=
  [["ACCOUNT"], ["APPLICATION", "PACKAGE"], ["APPLICATION"], ["COMPUTE", "POOL"],
    ["DATA", "EXCHANGE", "LISTING"], ["EXTERNAL", "VOLUME"], ["FAILOVER", "GROUP"],
    ["INTEGRATION"], ["NETWORK", "POLICY"], ["ORGANIZATION", "LISTING"],
    ["REPLICATION", "GROUP"], ["DATABASE"], ["ROLE"], ["SCHEMA"], ["SHARE"], ["USER"],
    ["WAREHOUSE"]]

/-- What may be executed under a privilege. -/
def executables : List (List String) :=
  [["DATA", "METRIC", "FUNCTION"], ["MANAGED", "ALERT"], ["MANAGED", "TASK"], ["ALERT"], ["TASK"]]

/-- What may be managed under a privilege. -/
def manageables : List (List String) :=
  [["ACCOUNT", "SUPPORT", "CASES"], ["EVENT", "SHARING"], ["LISTING", "AUTO", "FULFILLMENT"],
    ["ORGANIZATION", "SUPPORT", "CASES"], ["USER", "SUPPORT", "CASES"], ["GRANTS"],
    ["WAREHOUSES"]]

/-- What may be modified under a privilege. -/
def modifiables : List (List String) :=
  [["LOG", "LEVEL"], ["TRACE", "LEVEL"], ["SESSION", "LOG", "LEVEL"],
    ["SESSION", "TRACE", "LEVEL"]]

/-- What may be monitored under a privilege. -/
def monitorables : List (List String) :=
  [["EXECUTION"], ["SECURITY"], ["USAGE"]]

def privilege : Parser Unit := do
  if ← anyPhrase privilegePhrases then return ()
  else if ← keys ["DATABASE", "ROLE"] then
    let _ ← name
  else if ← isAnyKey ["INSERT", "REFERENCES", "SELECT", "UPDATE"] then
    let _ ← optParenIdents
  else if ← key "APPLY" then
    unless ← anyPhrase applicables do refuse
  else if ← key "CREATE" then
    let _ ← anyPhrase creatableObjects
  else if ← isAnyKey ["EXEC", "EXECUTE"] then
    let _ ← anyPhrase executables
  else if ← key "MANAGE" then
    unless ← anyPhrase manageables do refuse
  else if ← key "MODIFY" then
    let _ ← anyPhrase modifiables
  else if ← key "MONITOR" then
    let _ ← anyPhrase monitorables
  else if ← key "ROLE" then
    let _ ← name
  else
    let _ ← needAny privilegeWords

/-- Groups of objects, each in a schema or a database. -/
def objectGroups : List (List String) :=
  [["ALL", "TABLES", "IN", "SCHEMA"], ["ALL", "EXTERNAL", "TABLES", "IN", "SCHEMA"],
    ["ALL", "VIEWS", "IN", "SCHEMA"], ["ALL", "MATERIALIZED", "VIEWS", "IN", "SCHEMA"],
    ["ALL", "FUNCTIONS", "IN", "SCHEMA"], ["FUTURE", "SCHEMAS", "IN", "DATABASE"],
    ["FUTURE", "TABLES", "IN", "SCHEMA"], ["FUTURE", "EXTERNAL", "TABLES", "IN", "SCHEMA"],
    ["FUTURE", "VIEWS", "IN", "SCHEMA"], ["FUTURE", "MATERIALIZED", "VIEWS", "IN", "SCHEMA"],
    ["ALL", "SEQUENCES", "IN", "SCHEMA"], ["FUTURE", "SEQUENCES", "IN", "SCHEMA"],
    ["RESOURCE", "MONITOR"], ["COMPUTE", "POOL"], ["FAILOVER", "GROUP"],
    ["REPLICATION", "GROUP"], ["EXTERNAL", "VOLUME"]]

def objectKinds : List String :=
  ["SEQUENCE", "DATABASE", "SCHEMA", "TABLE", "VIEW", "WAREHOUSE", "INTEGRATION", "USER",
    "CONNECTION", "PROCEDURE", "FUNCTION", "TYPE", "DOMAIN"]

def privilegeObjects (r : Rules) : Parser Unit := do
  if ← anyPhrase objectGroups then
    let _ ← names
  else
    let kind ← anyKey objectKinds
    let _ ← commas namePattern
    if kind == some "PROCEDURE" || kind == some "FUNCTION" then
      if ← atSymbol "(" then
        let _ ← parens (commasBefore ")" (dataType r))

/-- Privileges, and whether it is said on what. -/
def privileges (r : Rules) : Parser Bool := do
  if ← key "ALL" then
    let _ ← key "PRIVILEGES"
  else
    let _ ← commas privilege
  if ← key "ON" then
    privilegeObjects r
    return true
  else return false

/-- Who privileges are given to; a kind of grantee holds until another one is named. -/
def grantees : Nat → Bool → Parser Unit
  | 0, _ => refuse
  | n + 1, all => do
    let (named, all) ←
      if ← isAnyKey ["ROLE", "USER", "SHARE", "GROUP"] then pure (true, false)
      else if ← key "PUBLIC" then pure (false, true)
      else if ← anyPhrase [["DATABASE", "ROLE"], ["APPLICATION", "ROLE"], ["APPLICATION"]] then
        pure (true, false)
      else pure (!all, all)
    if named then
      granteeName
      if ← symbol ":" then
        let _ ← ident
    if ← symbol "," then grantees n all

def granteeList : Parser Unit := do
  grantees ((← get).length + 1) false

def grant (r : Rules) : Parser Unit := do
  let _ ← privileges r
  need "TO"
  granteeList
  let _ ← keys ["WITH", "GRANT", "OPTION"]
  unless ← keys ["COPY", "CURRENT", "GRANTS"] do
    let _ ← keys ["REVOKE", "CURRENT", "GRANTS"]
  if ← key "AS" then
    let _ ← ident
  if ← keys ["GRANTED", "BY"] then
    let _ ← ident

def deny (r : Rules) : Parser Unit := do
  unless ← privileges r do refuse
  need "TO"
  granteeList
  dropBehavior
  if ← key "AS" then
    let _ ← ident

def revoke (r : Rules) : Parser Unit := do
  let _ ← privileges r
  need "FROM"
  granteeList
  if ← keys ["GRANTED", "BY"] then
    let _ ← ident
  dropBehavior

end DbConsole.Sql.Grammar

import DbConsole.Sql.Grammar.Table

/-!
Roles and users: how they are made and changed.
-/
set_option autoImplicit false

namespace DbConsole.Sql.Grammar

open DbConsole.Sql.Parser

/-! ### Options without parentheses -/

/-- Options with commas or nothing between them, and values that may be options again, nested at
most so deep. A semicolon or the end of the text ends them even in parentheses. -/
def settingPairsUpTo : Nat → (enclosed : Bool) → (ends : List String) → Parser Unit
  | 0, _, _ => refuse
  | n + 1, enclosed, ends => do
    if enclosed then needSymbol "("
    let value : Parser Unit := do
      match ← peek with
      | some (.string .single _) =>
        let _ ← literal
      | some (.word _ _ _) | some (.number _ _) => skip
      | some (.symbol "(") =>
        if (← attempt (parens (commasBefore ")" literal))).isNone then settingPairsUpTo n true []
      | _ => refuse
    skipMany do
      match ← peek with
      | none => return false
      | some (.symbol ";") => do skip; return false
      | some (.symbol ",") => do skip; return true
      | some (.symbol ")") => if enclosed then do skip; return false else refuse
      | some (.word _ k _) =>
        if ends.contains k then return false
        else
          skip
          needSymbol "="
          value
          return true
      | _ => refuse

def settingPairs (enclosed : Bool) (ends : List String) : Parser Unit := do
  settingPairsUpTo ((← get).length + 1) enclosed ends

/-! ### Roles -/

/-- The words for what a role may do, and what each of them decides. -/
def roleSwitches : List (String × String) :=
  [("BYPASSRLS", "BYPASSRLS"), ("NOBYPASSRLS", "BYPASSRLS"), ("CREATEDB", "CREATEDB"),
    ("NOCREATEDB", "CREATEDB"), ("CREATEROLE", "CREATEROLE"), ("NOCREATEROLE", "CREATEROLE"),
    ("INHERIT", "INHERIT"), ("NOINHERIT", "INHERIT"), ("LOGIN", "LOGIN"), ("NOLOGIN", "LOGIN"),
    ("REPLICATION", "REPLICATION"), ("NOREPLICATION", "REPLICATION"), ("SUPERUSER", "SUPERUSER"),
    ("NOSUPERUSER", "SUPERUSER")]

/-- An attribute of a role, if one comes: what it decides. -/
def roleAttribute? : Parser (Option String) := do
  if ← key "CONNECTION" then
    need "LIMIT"
    numberValue
    return some "CONNECTION"
  else if ← key "VALID" then
    need "UNTIL"
    let _ ← literal
    return some "VALID"
  else if ← key "PASSWORD" then
    unless ← key "NULL" do
      let _ ← literal
    return some "PASSWORD"
  else
    match ← anyKey (roleSwitches.map Prod.fst) with
    | some k => return roleSwitches.lookup k
    | none => return none

/-- Which roles a role belongs to, or which belong to it, if that is said. -/
def roleMembership? : Parser (Option String) := do
  let direction ←
    if ← key "IN" then some <$> (return "IN " ++ (← needAny ["ROLE", "GROUP"]))
    else anyKey ["ROLE", "ADMIN", "USER"]
  if direction.isSome then
    let _ ← commas ident
  return direction

/-- A new role. Nothing about it may be said twice. -/
def createRole : Parser Unit := do
  let _ ← ifNotExists
  let _ ← names
  let _ ← key "WITH"
  if ← supports Dialect.isPostgres then
    let said ← many do
      match ← roleAttribute? with
      | some decided => return some decided
      | none => roleMembership?
    unless said.eraseDups.length == said.length do refuse

/-- Attributes of a role up to the first that cannot be read. -/
def roleAttributes : Parser Unit := do
  let attributes ← many do
    return (← attempt roleAttribute?).join
  if attributes.isEmpty then refuse

def alterRole (r : Rules) : Parser Unit := do
  unless ← supports Dialect.isPostgres do refuse
  let _ ← ident
  if ← keys ["IN", "DATABASE"] then looseName
  if ← key "RENAME" then
    need "TO"
    let _ ← ident
  else if ← key "SET" then
    let _ ← name
    unless ← keys ["FROM", "CURRENT"] do
      unless ← symbol "=" do need "TO"
      unless ← key "DEFAULT" do
        let _ ← r.value
  else if ← key "RESET" then
    unless ← key "ALL" do
      let _ ← name
  else
    let _ ← key "WITH"
    roleAttributes

/-! ### Users -/

def createUser : Parser Unit := do
  let _ ← ifNotExists
  let _ ← ident
  settingPairs false ["WITH", "TAG"]
  let _ ← key "WITH"
  if ← key "TAG" then settingPairs true []

/-- A second way for a user to show who they are. -/
def secondFactor : Parser Unit := do
  let _ ← needAny ["PASSKEY", "TOTP", "DUO"]

/-- The roles that others may take on for a user. -/
def delegation : Parser Unit := do
  if ← keys ["ADD", "DELEGATED", "AUTHORIZATION", "OF", "ROLE"] then
    let _ ← ident
    needs ["TO", "SECURITY", "INTEGRATION"]
    let _ ← ident
  if ← keys ["REMOVE", "DELEGATED"] then
    if ← keys ["AUTHORIZATION", "OF", "ROLE"] then
      let _ ← ident
    else need "AUTHORIZATIONS"
    needs ["FROM", "SECURITY", "INTEGRATION"]
    let _ ← ident

def secondFactors : Parser Unit := do
  let _ ← keys ["ENROLL", "MFA"]
  if ← keys ["SET", "DEFAULT_MFA_METHOD"] then secondFactor
  if ← keys ["REMOVE", "MFA", "METHOD"] then secondFactor
  if ← keys ["MODIFY", "MFA", "METHOD"] then
    secondFactor
    needs ["SET", "COMMENT"]
    let _ ← literalString
  if ← keys ["ADD", "MFA", "METHOD", "OTP"] then
    if ← key "COUNT" then
      needSymbol "="
      let _ ← literal

/-- The policies that a user is under. -/
def userPolicies : List String :=
  ["AUTHENTICATION", "PASSWORD", "SESSION"]

/-- The changes of a user, each of which may be left out. -/
def alterUser : Parser Unit := do
  let _ ← ifExists
  let _ ← ident
  if ← keys ["RENAME", "TO"] then
    let _ ← ident
  let _ ← keys ["RESET", "PASSWORD"]
  let _ ← keys ["ABORT", "ALL", "QUERIES"]
  delegation
  secondFactors
  if ← anyPhrase (userPolicies.map (["SET", ·, "POLICY"])) then
    let _ ← ident
  let _ ← anyPhrase (userPolicies.map (["UNSET", ·, "POLICY"]))
  if ← keys ["SET", "TAG"] then settingPairs false []
  if ← keys ["UNSET", "TAG"] then
    let _ ← commas ident
  if ← key "SET" then settingPairs false []
  if ← key "UNSET" then
    let _ ← commas ident

end DbConsole.Sql.Grammar

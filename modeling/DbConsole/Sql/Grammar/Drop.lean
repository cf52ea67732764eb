import DbConsole.Sql.Grammar.Create

/-!
`DROP` and `TRUNCATE`, behind these words.
-/
set_option autoImplicit false

namespace DbConsole.Sql.Grammar

open DbConsole.Sql.Parser

/-- The kinds of objects that are dropped by name alone. -/
def dropTargets : List (List String × DropTarget) :=
  [(["TABLE"], .table), (["VIEW"], .other), (["MATERIALIZED", "VIEW"], .other),
    (["INDEX"], .index), (["ROLE"], .other), (["SCHEMA"], .schema), (["DATABASE"], .database),
    (["SEQUENCE"], .other), (["STAGE"], .other), (["TYPE"], .other), (["USER"], .other),
    (["STREAM"], .other)]

def dropTarget : List (List String × DropTarget) → Parser (Option DropTarget)
  | [] => return none
  | (ks, target) :: more => do if ← keys ks then return some target else dropTarget more

def dropNamed (target : DropTarget) (role : Bool) : Parser Statement := do
  let _ ← ifExists
  let dropped ← names
  let cascade ← key "CASCADE"
  let restrict ← key "RESTRICT"
  let purge ← key "PURGE"
  if cascade && restrict then refuse
  if role && (cascade || restrict || purge) then refuse
  if ← key "ON" then
    let _ ← name
  return .drop target dropped

/-- What is dropped with clauses of its own. -/
def dropOther (r : Rules) : Parser Statement := do
  let change (p : Parser Unit) : Parser Statement := do
    let _ ← ifExists
    p
    return .schema .drop []
  let other (p : Parser Unit) : Parser Statement := do
    let _ ← ifExists
    p
    return .other [] []
  match ← needAny ["FUNCTION", "POLICY", "CONNECTOR", "DOMAIN", "PROCEDURE", "SECRET", "TRIGGER",
      "EXTENSION", "OPERATOR"] with
  | "FUNCTION" => change do
    let _ ← commas (functionSignature r)
    dropBehavior
  | "TRIGGER" => change do
    let _ ← name
    if ← key "ON" then
      let _ ← name
    dropBehavior
  | "PROCEDURE" => other do
    let _ ← commas (functionSignature r)
    dropBehavior
  | "POLICY" => other do
    let _ ← ident
    need "ON"
    let _ ← name
    dropBehavior
  | "DOMAIN" => other do
    let _ ← name
    dropBehavior
  | "EXTENSION" => other do
    let _ ← commas ident
    dropBehavior
  | "SECRET" => other do
    let _ ← ident
    if ← key "FROM" then
      let _ ← looseIdent
  | "OPERATOR" =>
    dropOperator r
    return .other [] []
  | _ => other do
    let _ ← ident

def drop (r : Rules) : Parser Statement := do
  let d ← dialect
  if d.isMysql || d.isGeneric then
    let _ ← key "TEMPORARY"
  let role ← atKey ["ROLE"]
  match ← dropTarget dropTargets with
  | some target => dropNamed target role
  | none => dropOther r

def truncate (r : Rules) : Parser Statement := do
  let d ← dialect
  let _ ← key "TABLE"
  let _ ← commas do
    let _ ← key "ONLY"
    name
  if ← key "PARTITION" then
    let _ ← r.tuple
  if d.isPostgres || d.isGeneric then
    unless ← keys ["RESTART", "IDENTITY"] do
      let _ ← keys ["CONTINUE", "IDENTITY"]
    dropBehavior
  onCluster
  return .truncate

end DbConsole.Sql.Grammar

import DbConsole.Sql.Grammar.Write

/-!
Steps behind a query, each of which works on the rows of the one before it.
-/
set_option autoImplicit false

namespace DbConsole.Sql.Grammar

open DbConsole.Sql.Parser

/-- Which rows a combination of queries keeps: whether only those that differ. -/
def quantifier : Parser Bool := do
  if ← keys ["DISTINCT", "BY", "NAME"] then return true
  else if ← keys ["BY", "NAME"] then return false
  else if ← key "ALL" then
    let _ ← keys ["BY", "NAME"]
    return false
  else key "DISTINCT"

/-- A name, with or without `AS`, or none. -/
def optAlias : Parser Unit := do
  if ← key "AS" then
    let _ ← ident
  else
    let _ ← optIdent

/-- An expression to be aggregated or grouped by, with an alias and a direction. -/
def aggregateItem (r : Rules) : Parser (List Query) := do
  let value ← r.value
  let _ ← aliasUnless ["ASC", "DESC", "GROUP"]
  sortDirection
  return value

def aggregateStep (r : Rules) : Parser (List Query) := do
  let items ← if ← atKey ["GROUP"] then pure [] else commas (aggregateItem r)
  let group ← ifKeys ["GROUP", "BY"] (commas (aggregateItem r))
  return items.flatten ++ (group.getD []).flatten

/-- Queries in parentheses, with which the rows are combined. -/
def combinedQueries (r : Rules) : Parser (List Query) :=
  commas (parens r.query)

def pivotStep (r : Rules) : Parser (List Query) := do
  let within ← parens do
    let values ← commas (namedCall r)
    need "FOR"
    let _ ← name
    need "IN"
    return values.flatten ++ (← parens (pivotValues r))
  optAlias
  return within

def unpivotStep : Parser Unit := do
  parens do
    let _ ← ident
    need "FOR"
    let _ ← ident
    need "IN"
    let _ ← parenIdents
  optAlias

/-- One join and no more. -/
def joinStep (r : Rules) : Parser (List Query) := do
  match ← many (join? r (factor r)) with
  | [within] => return within
  | _ => refuse

/-- What the word of a step asks for, behind that word. -/
def stepAfter (r : Rules) : String → Parser (List Query)
  | "SELECT" | "EXTEND" => selectItems r
  | "SET" => assignments r
  | "DROP" => do
    looseNames
    return []
  | "AS" => do
    let _ ← ident
    return []
  | "WHERE" => r.value
  | "LIMIT" => do
    let limit ← r.value
    return limit ++ (← ifKey "OFFSET" r.value).getD []
  | "AGGREGATE" => aggregateStep r
  | "ORDER" => do
    need "BY"
    orderKeys r
  | "TABLESAMPLE" => sample r
  | "RENAME" => do
    let _ ← commas do
      let _ ← ident
      let _ ← key "AS"
      ident
    return []
  | "UNION" => do
    let _ ← quantifier
    combinedQueries r
  | "INTERSECT" | "EXCEPT" => do
    unless ← quantifier do refuse
    combinedQueries r
  | "CALL" => do
    let _ ← name
    let within ← call r
    optAlias
    return within
  | "PIVOT" => pivotStep r
  | "UNPIVOT" => do
    unpivotStep
    return []
  | _ => refuse

/-- One step, if one comes. -/
def step? (r : Rules) : Parser (Option (List Query)) :=
  ifSymbol "|>" do
    if ← atKey ["JOIN", "INNER", "LEFT", "RIGHT", "FULL", "CROSS"] then joinStep r
    else
      let k ← keyAhead 0
      skip
      stepAfter r k

def steps (r : Rules) : Parser (List Query) := do
  if ← supports Dialect.isGeneric then return (← many (step? r)).flatten else return []

end DbConsole.Sql.Grammar

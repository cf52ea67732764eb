import DbConsole.Sql.Grammar.From

/-!
`SELECT`, from the select list to the windows.
-/
set_option autoImplicit false

namespace DbConsole.Sql.Grammar

open DbConsole.Sql.Parser

/-- Whether a name is the bare word that begins the next clause. -/
def isBareFrom (parts : List Ident) : Bool :=
  match parts with
  | [i] => i.quote.isNone && capitals i.text == "FROM"
  | _ => false

def selectItem (r : Rules) : Parser (List Query) := do
  let item ← starOrExpression r
  match item.form with
  | .star | .allOf => return item.within ++ (← starOptions r)
  | .path parts =>
    if isBareFrom parts then refuse
    let _ ← columnAlias
    return item.within
  | .other =>
    let _ ← columnAlias
    return item.within

def selectItems (r : Rules) : Parser (List Query) := do
  return (← commas (selectItem r)).flatten

/-- Whether a select list ends before what comes, so that a comma may stand behind its last
item. -/
def atProjectionEnd : Parser Bool := do
  match ← peek with
  | none => return true
  | some (.word _ k _) => return endsColumn.contains k
  | some (.symbol s) => return [")", ";", "]", "\x7d"].contains s
  | _ => return false

/-- The items of a `SELECT`, behind the last of which some dialects bear a comma. -/
def projection (r : Rules) : Parser (List Query) := do
  let trailing ← supports Dialect.isGeneric
  let first ← selectItem r
  let more ← many do
    if !(← symbol ",") || (trailing && (← atProjectionEnd)) then return none
    else some <$> selectItem r
  return first ++ more.flatten

/-- Values in parentheses, perhaps none. -/
def optTuple (r : Rules) : Parser (List Query) :=
  parens (List.flatten <$> commasBefore ")" r.value)

/-- The rows that are told apart. -/
def distinctClause (r : Rules) : Parser (List Query) := do
  let all ← key "ALL"
  if ← key "DISTINCT" then
    if all then refuse
    if ← key "ON" then optTuple r else return []
  else return []

def topClause (r : Rules) : Parser (List Query) := do
  if ← key "TOP" then
    let within ← if ← atSymbol "(" then parens r.value else do
      literalNat
      pure []
    let _ ← key "PERCENT"
    let _ ← keys ["WITH", "TIES"]
    return within
  else return []

def tupleOrValue (r : Rules) : Parser (List Query) := do
  if ← atSymbol "(" then optTuple r else r.value

def groupItem (r : Rules) : Parser (List Query) := do
  if ← supports Dialect.groupingSets then
    if ← keys ["GROUPING", "SETS"] then parens (List.flatten <$> commas (optTuple r))
    else if ← isAnyKey ["CUBE", "ROLLUP"] then parens (List.flatten <$> commas (tupleOrValue r))
    else if (← atSymbol "(") && (← ahead 1) == some (.symbol ")") then
      skipCount 2
      return []
    else r.value
  else r.value

def groupClause (r : Rules) : Parser (List Query) := do
  if ← keys ["GROUP", "BY"] then
    let items ← if ← key "ALL" then pure [] else commas (groupItem r)
    if ← supports Dialect.groupModifiers then
      skipMany do
        if ← key "WITH" then
          let _ ← needAny ["ROLLUP", "CUBE", "TOTALS"]
          return true
        else return false
    let sets ← ifKeys ["GROUPING", "SETS"] (parens (commas (tupleOrValue r)))
    return items.flatten ++ (sets.getD []).flatten
  else return []

def namedWindow (r : Rules) : Parser (List Query) := do
  let _ ← ident
  need "AS"
  if ← symbol "(" then window r
  else if ← supports Dialect.isGeneric then
    let _ ← ident
    return []
  else refuse

/-- The named windows and the condition on them, in either order. -/
def windowClauses (r : Rules) : Parser (List Query) := do
  let windows : Parser (List Query) := List.flatten <$> commas (namedWindow r)
  if ← key "WINDOW" then
    let first ← windows
    return first ++ (← ifKey "QUALIFY" r.value).getD []
  else if ← key "QUALIFY" then
    let first ← r.value
    return first ++ (← ifKey "WINDOW" windows).getD []
  else return []

def hierarchyClause (r : Rules) : Parser (List Query) := do
  if (← supports Dialect.isGeneric) && (← atKey ["START", "CONNECT"]) then
    let relations : Parser (List Query) := do
      needs ["CONNECT", "BY"]
      standingAt .hierarchy r.values
    if ← atKey ["CONNECT"] then
      let first ← relations
      needs ["START", "WITH"]
      return first ++ (← r.value)
    else
      needs ["START", "WITH"]
      let first ← r.value
      return first ++ (← relations)
  else return []

/-- The table that is made of the rows. -/
def intoClause : Parser Unit := do
  let _ ← anyKey ["TEMP", "TEMPORARY"]
  let _ ← key "UNLOGGED"
  let _ ← key "TABLE"
  let _ ← name

def lateralView (r : Rules) : Parser (Option (List Query)) :=
  ifKeys ["LATERAL", "VIEW"] do
    let _ ← key "OUTER"
    let value ← r.value
    let _ ← name
    let _ ← commas do
      aliasUnless ["WHERE", "GROUP", "CLUSTER", "HAVING", "LATERAL"]
    return value

/-- What follows the tables of a `SELECT`. -/
def selectTail (r : Rules) : Parser (List Query) := do
  let clause (ks : List String) : Parser (List Query) := do
    return ((← ifKeys ks r.value).getD [])
  let views ← many (lateralView r)
  let before ← if ← supports Dialect.isGeneric then clause ["PREWHERE"] else pure []
  let condition ← clause ["WHERE"]
  let group ← groupClause r
  let cluster ← ifKeys ["CLUSTER", "BY"] r.values
  let distribute ← ifKeys ["DISTRIBUTE", "BY"] r.values
  let sort ← ifKeys ["SORT", "BY"] (orderKeys r)
  let having ← clause ["HAVING"]
  let windows ← windowClauses r
  let hierarchy ← hierarchyClause r
  return views.flatten ++ before ++ condition ++ group ++ cluster.getD [] ++ distribute.getD [] ++
    sort.getD [] ++ having ++ windows ++ hierarchy

def select (r : Rules) : Parser Body := do
  let d ← dialect
  let firstTables ← if d.isGeneric then ifKey "FROM" (tables r) else pure none
  match firstTables, ← atKey ["SELECT"] with
  | some within, false => return .select false within
  | _, _ =>
    need "SELECT"
    let distinct ← distinctClause r
    let top ← topClause r
    let items ← if d.emptyProjections && (← atKey ["FROM"]) then pure [] else projection r
    let into ← key "INTO"
    if into then intoClause
    let from' ← match firstTables with
      | some within => pure within
      | none => do pure ((← ifKey "FROM" (tables r)).getD [])
    let tail ← selectTail r
    return .select into (distinct ++ top ++ items ++ from' ++ tail)

end DbConsole.Sql.Grammar

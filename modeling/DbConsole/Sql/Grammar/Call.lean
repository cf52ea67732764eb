import DbConsole.Sql.Grammar.DataType

/-!
Calls of functions: their arguments, and the clauses after them.
-/
set_option autoImplicit false

namespace DbConsole.Sql.Grammar

open DbConsole.Sql.Parser

/-- The names before a star: all columns of something. -/
def allOf : Parser Unit := do
  let part : Parser Unit := do
    match ← next with
    | .word _ _ _ | .string .single _ => return ()
    | _ => refuse
  part
  unless ← atSymbol "." do refuse
  skipMany do
    if (← atSymbol ".") && (← ahead 1) != some (.symbol "*") then
      skip
      part
      return true
    else return false
  needSymbol "."
  needSymbol "*"

/-- Whether names joined by points come, after the last of which a point stands before something
that is no name. -/
def brokenPath : Parser Bool :=
  looksLike do
    let part : Parser Unit := do
      match ← next with
      | .word _ _ _ | .string .single _ => return ()
      | _ => refuse
    part
    needSymbol "."
    skipMany do
      match ← attempt (do part; needSymbol ".") with
      | some () => return true
      | none => return false
    match ← peek with
    | some (.word _ _ _) | some (.string .single _) => refuse
    | _ => return ()

/-- An expression, or a star alone or behind a name. -/
def starOrExpression (r : Rules) : Parser Operand := do
  if ← symbol "*" then return ⟨.star, []⟩
  else
    match ← attempt allOf with
    | some () => return ⟨.allOf, []⟩
    | none => if ← brokenPath then refuse else r.expression 0

def orderDirection : Parser Unit := do
  sortDirection
  unless ← keys ["NULLS", "FIRST"] do
    let _ ← keys ["NULLS", "LAST"]

/-- How the gaps between rows are filled. -/
def fillClause (r : Rules) : Parser (List Query) := do
  if (← supports Dialect.isGeneric) && (← atKey ["WITH"]) then
    if ← keys ["WITH", "FILL"] then
      let start ← ifKey "FROM" r.value
      let stop ← ifKey "TO" r.value
      let step ← ifKey "STEP" r.value
      return start.getD [] ++ stop.getD [] ++ step.getD []
  return []

/-- One sort key. -/
def orderKey (r : Rules) : Parser (List Query) := do
  let key ← r.value
  orderDirection
  return key ++ (← fillClause r)

def orderKeys (r : Rules) : Parser (List Query) := do
  return (← commas (orderKey r)).flatten

def optOrderBy (r : Rules) : Parser (List Query) := do
  if ← keys ["ORDER", "BY"] then orderKeys r else return []

/-- Reads how nulls are treated, if that is said. -/
def nullTreatment : Parser Bool := do
  if ← isAnyKey ["RESPECT", "IGNORE"] then
    need "NULLS"
    return true
  else return false

/-- Reads how a document treats nulls, if that is said. -/
def documentNulls : Parser Bool := do
  if ← keys ["ABSENT", "ON", "NULL"] then return true
  else keys ["NULL", "ON", "NULL"]

def documentClauses (r : Rules) : Parser Unit := do
  let _ ← documentNulls
  if ← key "RETURNING" then
    let _ ← dataType r

/-- The sign between the name of an argument and its value. -/
def argumentSign : Parser Unit := do
  if ← key "VALUE" then return ()
  let d ← dialect
  match ← next with
  | .symbol s =>
    if s == "=>" || (s == ":=" && d.isGeneric) || (s == ":" && d.isPostgres) then return ()
    else refuse
  | _ => refuse

/-- What may follow a star in a select list: columns that are left out or replaced. -/
def starOptions (r : Rules) : Parser (List Query) := do
  let d ← dialect
  let left : Parser Unit := do
    if ← atSymbol "(" then
      let _ ← parenIdents
    else
      let _ ← ident
  if d.isGeneric then
    if ← key "ILIKE" then singleString
    else if ← key "EXCLUDE" then left
    if ← key "EXCEPT" then left
    let replaced ← ifKey "REPLACE" do
      parens (commas do
        let value ← r.value
        let _ ← key "AS"
        let _ ← ident
        return value)
    if ← key "RENAME" then
      let renamed : Parser Unit := do
        let _ ← ident
        need "AS"
        let _ ← ident
      if ← atSymbol "(" then
        let _ ← parens (commas renamed)
      else renamed
    return (replaced.getD []).flatten
  else return []

def argument (r : Rules) : Parser (List Query) := do
  let postgres ← supports Dialect.isPostgres
  let named ← attempt do
    let name ← if postgres then r.value else do
      let _ ← ident
      pure []
    argumentSign
    let value ← starOrExpression r
    return name ++ value.within
  match named with
  | some within => return within
  | none =>
    let value ← starOrExpression r
    match value.form with
    | .star => starOptions r
    | _ => return value.within

/-- The strings that may stand for what is cut off a list of values. -/
def isFiller : Token → Bool
  | .string kind _ => [StringKind.single, .escaped, .unicode, .national, .hex].contains kind
  | _ => false

/-- What a list of values that is too long becomes. -/
def overflowClause (r : Rules) : Parser (List Query) := do
  if ← keys ["ON", "OVERFLOW"] then
    if ← key "ERROR" then return []
    need "TRUNCATE"
    let filler ← if (← peek).any isFiller then r.value else pure []
    let _ ← needAny ["WITH", "WITHOUT"]
    need "COUNT"
    return filler
  else return []

/-- The arguments behind an opening parenthesis, with the closing one, and whether they said how
nulls are treated. -/
def arguments (r : Rules) : Parser (List Query × Bool) := do
  let d ← dialect
  documentClauses r
  if ← symbol ")" then return ([], false)
  if ← key "ALL" then
    if ← key "DISTINCT" then refuse
  else
    let _ ← key "DISTINCT"
  let values ← commas (argument r)
  let treated ← if d.isGeneric then nullTreatment else pure false
  let order ← optOrderBy r
  let limit ← ifKey "LIMIT" r.value
  let bound ← if d.isGeneric then ifKey "HAVING" (do
      let _ ← needAny ["MIN", "MAX"]
      r.value)
    else pure none
  if d.isGeneric || d.isMysql then
    if ← key "SEPARATOR" then
      let _ ← literal
  let filler ← overflowClause r
  documentClauses r
  needSymbol ")"
  return (values.flatten ++ order ++ limit.getD [] ++ bound.getD [] ++ filler, treated)

/-! ### Intervals -/

/-- The units in which something may be taken out of a time. -/
def timeUnits : List String :=
  ["YEAR", "YEARS", "MONTH", "MONTHS", "WEEK", "WEEKS", "DAY", "DAYOFWEEK", "DAYOFYEAR", "DAYS",
    "DATE", "DATETIME", "HOUR", "HOURS", "MINUTE", "MINUTES", "SECOND", "SECONDS", "CENTURY",
    "DECADE", "DOY", "DOW", "EPOCH", "ISODOW", "ISOYEAR", "ISOWEEK", "JULIAN", "MICROSECOND",
    "MICROSECONDS", "MILLENIUM", "MILLENNIUM", "MILLISECOND", "MILLISECONDS", "NANOSECOND",
    "NANOSECONDS", "QUARTER", "TIME", "TIMEZONE", "TIMEZONE_ABBR", "TIMEZONE_HOUR",
    "TIMEZONE_MINUTE", "TIMEZONE_REGION"]

/-- The units of time that an interval may not be counted in. -/
def uncountedUnits : List String :=
  ["DATE", "DATETIME", "TIME", "DAYOFWEEK", "DAYOFYEAR", "ISOWEEK", "TIMEZONE_ABBR",
    "TIMEZONE_REGION"]

/-- A unit of time; whether it is the second. -/
def timeUnit : Parser Bool := do
  let d ← dialect
  let custom := d.isGeneric || d.isPostgres
  match ← next with
  | .word _ k _ =>
    if timeUnits.contains k then
      if k == "WEEK" && d.isGeneric then
        if ← atSymbol "(" then
          let _ ← parens ident
      return k == "SECOND"
    else if custom then return false
    else refuse
  | .string .single _ => if custom then return false else refuse
  | _ => refuse

/-- The units behind the value of an interval. -/
def intervalUnitsAfterValue : Parser Unit := do
  let unit ← keyAhead 0
  let second ←
    if timeUnits.contains unit && !uncountedUnits.contains unit then timeUnit
    else if ← supports Dialect.intervalNeedsUnit then refuse
    else pure false
  if second then optPrecisionScale
  else
    optPrecision
    if ← key "TO" then
      if ← timeUnit then optPrecision

/-- The order that is given to a text. Among the properties of a column it is one of these. -/
def optCollation : Parser Unit := do
  unless ← isAt .columnProperty do
    if ← key "COLLATE" then
      let _ ← name

/-! ### Windows -/

/-- How far a window reaches. A string there is an interval, whose value binds as an interval's
does. -/
def frameReach (r : Rules) : Parser (List Query) := do
  match ← peek with
  | some (.string .single _) =>
    let value ← if ← supports Dialect.intervalNeedsUnit then r.value else do
      skip
      optCollation
      pure []
    intervalUnitsAfterValue
    return value
  | _ => r.value

/-- One end of a window's frame. -/
def frameBound (r : Rules) : Parser (List Query) := do
  if ← keys ["CURRENT", "ROW"] then return []
  let rows ← if ← key "UNBOUNDED" then pure [] else frameReach r
  let _ ← needAny ["PRECEDING", "FOLLOWING"]
  return rows

def frameUnits : List String :=
  ["ROWS", "RANGE", "GROUPS"]

/-- The rows of a window, behind the opening parenthesis, with the closing one. -/
def window (r : Rules) : Parser (List Query) := do
  if (← peek).any isPlainWord then skip
  let parts ← ifKeys ["PARTITION", "BY"] r.values
  let order ← optOrderBy r
  let frame ← if ← atSymbol ")" then pure [] else do
    let _ ← needAny frameUnits
    if ← key "BETWEEN" then
      let start ← frameBound r
      need "AND"
      let stop ← frameBound r
      pure (start ++ stop)
    else frameBound r
  needSymbol ")"
  return parts.getD [] ++ order ++ frame

def overClause (r : Rules) : Parser (List Query) := do
  if ← key "OVER" then
    if ← symbol "(" then window r
    else
      let _ ← ident
      return []
  else return []

/-- The filter of an aggregate. -/
def filterClause (r : Rules) : Parser (List Query) := do
  if !(← supports Dialect.filtersAggregates) then return []
  if ← key "FILTER" then
    if ← symbol "(" then
      if ← key "WHERE" then
        let condition ← r.value
        needSymbol ")"
        return condition
  return []

/-- A call from its opening parenthesis on. -/
def call (r : Rules) : Parser (List Query) := do
  needSymbol "("
  let (values, treated) ← arguments r
  let (second, treated) ←
    if (← supports Dialect.isGeneric) && (← atSymbol "(") then do
      skip
      arguments r
    else pure ([], treated)
  let group ← ifKeys ["WITHIN", "GROUP"] (parens do
    needs ["ORDER", "BY"]
    orderKeys r)
  let filter ← filterClause r
  unless treated do
    let _ ← nullTreatment
  let window ← overClause r
  return values ++ second ++ group.getD [] ++ filter ++ window

end DbConsole.Sql.Grammar

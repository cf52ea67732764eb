import DbConsole.Sql.Grammar.Expression

/-!
The tables of a `FROM` clause: named tables, queries, calls, and joins of them.
-/
set_option autoImplicit false

namespace DbConsole.Sql.Grammar

open DbConsole.Sql.Parser

/-- A table of a `FROM` clause: whether it is a join in parentheses, whether it has an alias, and
the queries in it. -/
structure Factor where
  nested : Bool
  aliased : Bool
  within : List Query

/-- A table with clauses behind it that make other tables of it. The last of these decides whether
the whole has an alias. -/
def Factor.turned (table : Factor) (clauses : List Factor) : Factor :=
  ⟨table.nested, (clauses.getLast?.getD table).aliased,
    table.within ++ clauses.flatMap Factor.within⟩

/-- The names that an alias gives to columns, with or without their types. -/
def aliasColumns (r : Rules) : Parser Unit := do
  if ← atSymbol "(" then
    let _ ← parens (commas do
      let _ ← ident
      attempt (dataType r))

/-- The alias of a table, with names for its columns. -/
def tableAlias (r : Rules) : Parser Bool := do
  match ← tableAliasName with
  | some _ => do aliasColumns r; return true
  | none => return false

/-- Settings of a query, if they are given. -/
def settingsClause (r : Rules) : Parser (Option (List Query)) := do
  if (← supports Dialect.isGeneric) && (← atKey ["SETTINGS"]) then
    skip
    let settings ← commas (assignedOption r)
    return some settings.flatten
  else return none

/-- The arguments of a table function behind the opening parenthesis. -/
def tableArguments (r : Rules) : Parser (List Query) := do
  if ← symbol ")" then return []
  let arguments ← commas do
    match ← settingsClause r with
    | some within => return within
    | none => argument r
  needSymbol ")"
  return arguments.flatten

/-- How large a sample is, behind the word for it. -/
def sample (r : Rules) : Parser (List Query) := do
  let _ ← anyKey ["BERNOULLI", "ROW", "SYSTEM", "BLOCK"]
  let enclosed ← symbol "("
  let size ←
    if enclosed && (← atKey ["BUCKET"]) then do
      skip
      numberValue
      needs ["OUT", "OF"]
      numberValue
      pure ((← ifKey "ON" r.value).getD [])
    else do
      let value ← match ← attempt r.value with
        | some value => pure value
        | none => if (← next).isWord then pure [] else refuse
      let _ ← anyKey ["ROWS", "PERCENT"]
      pure value
  if enclosed then needSymbol ")"
  if ← isAnyKey ["REPEATABLE", "SEED"] then parens numberValue
  let offset ← ifKey "OFFSET" r.value
  return size ++ offset.getD []

def sampleClause (r : Rules) : Parser (List Query) := do
  if ← isAnyKey ["TABLESAMPLE", "SAMPLE"] then sample r else return []

/-- Which indexes a table's rows are to be found by. -/
def indexHint : Parser Unit := do
  let _ ← needAny ["INDEX", "KEY"]
  if ← key "FOR" then
    unless ← anyPhrase [["JOIN"], ["ORDER", "BY"], ["GROUP", "BY"]] do refuse
  let _ ← parens (commasBefore ")" ident)

/-- Hints for the indexes of a table. If one of them cannot be read, none of them is. -/
def indexHints : Parser Unit := do
  let _ ← attempt (many do
    if ← isAnyKey ["USE", "IGNORE", "FORCE"] then some <$> indexHint else return none)

/-- A query in parentheses, of which the first has been read. -/
def derivedTable (r : Rules) : Parser Factor := do
  let query ← r.query
  needSymbol ")"
  return ⟨false, ← tableAlias r, [query]⟩

def joinConstraint (r : Rules) : Parser (List Query) := do
  if ← key "ON" then r.value
  else if ← key "USING" then
    let _ ← parens names
    return []
  else return []

/-! ### Tables made of documents -/

/-- A column of a table made of a document. -/
def documentColumnUpTo (r : Rules) : Nat → Parser Unit
  | 0 => refuse
  | n + 1 => do
    if ← key "NESTED" then
      let _ ← key "PATH"
      let _ ← literal
      need "COLUMNS"
      let _ ← parens (commas (documentColumnUpTo r n))
    else
      let _ ← ident
      if ← key "FOR" then need "ORDINALITY"
      else
        let _ ← dataType r
        let _ ← key "EXISTS"
        need "PATH"
        let _ ← literal
        skipMany causeClause
where
  causeClause : Parser Bool := do
    if ← key "DEFAULT" then
      let _ ← literal
    else unless ← isAnyKey ["NULL", "ERROR"] do return false
    need "ON"
    let _ ← needAny ["EMPTY", "ERROR"]
    return true

/-- A table made of a document, behind the opening parenthesis. -/
def documentTable (r : Rules) : Parser (List Query) := do
  let value ← r.value
  needSymbol ","
  let _ ← literal
  need "COLUMNS"
  let size := (← get).length
  let _ ← parens (commas (documentColumnUpTo r size))
  needSymbol ")"
  return value

/-- As `documentTable`, with the columns behind the closing parenthesis. -/
def openedDocument (r : Rules) : Parser (List Query) := do
  let value ← r.value
  if ← symbol "," then
    let _ ← literal
  needSymbol ")"
  if ← key "WITH" then
    let _ ← parens (commas do
      let _ ← ident
      let _ ← dataType r
      match ← peek with
      | some (.string .single _) => skip
      | _ => pure ()
      if ← key "AS" then need "JSON")
  return value

/-- What is handed to a markup document. -/
def passingClause (r : Rules) : Parser (List Query) := do
  let passed ← ifKey "PASSING" (commas do
    if ← key "BY" then
      let _ ← key "VALUE"
    let value ← r.value
    if ← key "AS" then
      let _ ← ident
    return value)
  return (passed.getD []).flatten

/-- A column of a table made of a markup document. -/
def markupColumn (r : Rules) : Parser (List Query) := do
  let _ ← ident
  if ← key "FOR" then
    need "ORDINALITY"
    return []
  else
    let _ ← dataType r
    let path ← ifKey "PATH" r.value
    let default ← ifKey "DEFAULT" r.value
    unless ← keys ["NOT", "NULL"] do
      let _ ← key "NULL"
    return path.getD [] ++ default.getD []

/-- A table made of a markup document, behind the opening parenthesis. -/
def markupTable (r : Rules) : Parser (List Query) := do
  let spaces ← ifKey "XMLNAMESPACES" do
    let spaces ← parens (commas do
      let value ← r.value
      need "AS"
      let _ ← ident
      return value)
    needSymbol ","
    return spaces.flatten
  let rows ← r.value
  let passed ← passingClause r
  need "COLUMNS"
  let columns ← commas (markupColumn r)
  needSymbol ")"
  return spaces.getD [] ++ rows ++ passed ++ columns.flatten

/-! ### Tables turned, and rows matched -/

/-- The name that `AS` gives. -/
def asIdent : Parser Unit := do
  if ← key "AS" then
    let _ ← ident

/-- An expression, to which only `AS` gives a name. -/
def namedValue (r : Rules) : Parser (List Query) := do
  let value ← r.value
  asIdent
  return value

/-- A call of a function, to which only `AS` gives a name. -/
def namedCall (r : Rules) : Parser (List Query) := do
  unless (← next).isWord do refuse
  let within ← call r
  asIdent
  return within

/-- The values that become columns, behind the opening parenthesis. -/
def pivotValues (r : Rules) : Parser (List Query) := do
  if ← key "ANY" then optOrderBy r
  else if ← atKey ["SELECT", "WITH"] then r.oneQuery
  else List.flatten <$> commas (namedValue r)

def pivotClause (r : Rules) : Parser Factor := do
  let strength ← strengthOf .between
  let within ← parens do
    let values ← commas (namedCall r)
    need "FOR"
    let columns ← if ← atSymbol "(" then parens (commas (r.tight strength))
      else do pure [← r.tight strength]
    need "IN"
    let sources ← parens (pivotValues r)
    let default ← ifKeys ["DEFAULT", "ON", "NULL"] (parens r.value)
    return values.flatten ++ columns.flatten ++ sources ++ default.getD []
  return ⟨false, ← tableAlias r, within⟩

def unpivotClause (r : Rules) : Parser Factor := do
  unless ← keys ["INCLUDE", "NULLS"] do
    let _ ← keys ["EXCLUDE", "NULLS"]
  let within ← parens do
    let value ← r.value
    need "FOR"
    let _ ← ident
    need "IN"
    let columns ← parens (commas (namedValue r))
    return value ++ columns.flatten
  return ⟨false, ← tableAlias r, within⟩

def pivots (r : Rules) : Parser (List Factor) :=
  many do
    if ← key "PIVOT" then some <$> pivotClause r
    else if ← key "UNPIVOT" then some <$> unpivotClause r
    else return none

/-- How often a part of a row pattern is repeated, if that is said. -/
def patternRepetition : Parser Bool := do
  match ← peek with
  | some (.symbol "*") | some (.symbol "+") | some (.placeholder "?") => do skip; return true
  | some (.symbol "\x7b") =>
    skip
    let bound := numberBelow (Nat.pow 2 32)
    if ← symbol "," then bound
    else
      bound
      if ← symbol "," then
        unless ← atSymbol "\x7d" do bound
    needSymbol "\x7d"
    return true
  | _ => return false

/-- A pattern of rows: alternatives of sequences, each within at most so many parentheses. -/
def rowPatternUpTo : Nat → Parser Unit
  | 0 => refuse
  | n + 1 => do
    let base : Parser Unit := do
      match ← next with
      | .symbol "^" | .placeholder "$" => return ()
      | .symbol "\x7b" =>
        needSymbol "-"
        let _ ← ident
        needSymbol "-"
        needSymbol "\x7d"
      | .symbol "(" =>
        rowPatternUpTo n
        needSymbol ")"
      | .word "PERMUTE" _ none =>
        let _ ← parenIdents
      | t => if (identOf? t).isNone then refuse
    let part : Parser Unit := do
      base
      skipMany patternRepetition
    part
    skipMany do
      if ← symbol "|" then do part; return true
      else if ← atSymbol ")" then return false
      else do part; return true

/-- Which rows of a match are shown. -/
def rowsPerMatch : Parser Unit := do
  unless ← keys ["ONE", "ROW", "PER", "MATCH"] do
    if ← keys ["ALL", "ROWS", "PER", "MATCH"] then
      let _ ← anyPhrase [["SHOW", "EMPTY", "MATCHES"], ["OMIT", "EMPTY", "MATCHES"],
        ["WITH", "UNMATCHED", "ROWS"]]

/-- Where the search for the next match begins. -/
def afterMatch : Parser Unit := do
  if ← keys ["AFTER", "MATCH", "SKIP"] then
    unless ← anyPhrase [["PAST", "LAST", "ROW"], ["TO", "NEXT", "ROW"]] do
      unless ← anyPhrase [["TO", "FIRST"], ["TO", "LAST"]] do refuse
      let _ ← ident

/-- The rows of a table that match a pattern. -/
def matchClause (r : Rules) : Parser Factor := do
  let within ← parens do
    let parts ← ifKeys ["PARTITION", "BY"] r.values
    let order ← optOrderBy r
    let measures ← ifKey "MEASURES" (commas do
      let value ← r.value
      let _ ← key "AS"
      let _ ← ident
      return value)
    rowsPerMatch
    afterMatch
    need "PATTERN"
    parens (rowPatternUpTo ((← get).length + 1))
    need "DEFINE"
    let rules ← commas do
      let _ ← ident
      need "AS"
      r.value
    return parts.getD [] ++ order ++ (measures.getD []).flatten ++ rules.flatten
  return ⟨false, ← tableAlias r, within⟩

/-! ### Tables and joins -/

/-- Hints for a table, in parentheses behind `WITH`; otherwise that word is not for the table. -/
def tableHints (r : Rules) : Parser (List Query) := do
  if (← atKey ["WITH"]) && (← ahead 1) == some (.symbol "(") then
    skip
    r.tuple
  else return []

/-- A table that is named, or the call of a function that gives one. -/
def namedTable (r : Rules) : Parser Factor := do
  let d ← dialect
  let _ ← name
  if (d.isMysql || d.isGeneric) && (← atKey ["PARTITION"]) then
    skip
    let _ ← parenIdents
  let arguments ← ifSymbol "(" (tableArguments r)
  let _ ← keys ["WITH", "ORDINALITY"]
  let aliased ← tableAlias r
  if d.isMysql then indexHints
  let hints ← tableHints r
  let sample ← sampleClause r
  let turned ← pivots r
  let rows ← if d.isGeneric then ifKey "MATCH_RECOGNIZE" (matchClause r) else pure none
  let table : Factor := ⟨false, aliased, arguments.getD [] ++ hints ++ sample⟩
  return table.turned (turned ++ rows.toList)

/-- The way in which a join joins, if a join comes: whether its columns are compared by
themselves. -/
def joinKind : Parser (Option Bool) := do
  let natural ← key "NATURAL"
  if ← key "INNER" then do need "JOIN"; return some natural
  else if ← key "JOIN" then return some natural
  else if ← isAnyKey ["LEFT", "RIGHT"] then
    unless ← key "JOIN" do
      let _ ← needAny ["OUTER", "SEMI", "ANTI"]
      need "JOIN"
    return some natural
  else if ← isAnyKey ["ANTI", "SEMI"] then do need "JOIN"; return some natural
  else if ← key "FULL" then
    let _ ← key "OUTER"
    need "JOIN"
    return some natural
  else if ← key "STRAIGHT_JOIN" then return some natural
  else if natural then refuse
  else return none

/-- A join behind a table, whose own table is read by the parser given. -/
def join? (r : Rules) (factor : Parser Factor) : Parser (Option (List Query)) := do
  let _ ← key "GLOBAL"
  if ← key "CROSS" then
    let joins ← key "JOIN"
    unless joins do need "APPLY"
    let table ← factor
    let constraint ←
      if joins && (← supports Dialect.isMysql) then joinConstraint r else pure []
    return some (table.within ++ constraint)
  else if ← key "OUTER" then
    need "APPLY"
    return some (← factor).within
  else if ← key "ASOF" then
    need "JOIN"
    let table ← factor
    need "MATCH_CONDITION"
    let condition ← parens r.value
    return some (table.within ++ condition ++ (← joinConstraint r))
  else
    match ← joinKind with
    | none => return none
    | some natural =>
      let table ← factor
      let constraint ← if natural then pure [] else joinConstraint r
      return some (table.within ++ constraint)

/-- The rows of lists, as a table. -/
def unnestTable (r : Rules) : Parser Factor := do
  let within ← r.tuple
  let _ ← keys ["WITH", "ORDINALITY"]
  let aliased ← tableAlias r
  if ← key "WITH" then
    if ← key "OFFSET" then
      let _ ← columnAlias
  return ⟨false, aliased, within⟩

/-- A table that a word and an opening parenthesis begin, if they come. -/
def calledTable? (r : Rules) : Parser (Option Factor) := do
  let d ← dialect
  let rest : Option (Nat × Parser (List Query)) :=
    match ← keyAhead 0 with
    | "VALUES" => if d.isGeneric then some (1, List.flatten <$> commas (do
        let _ ← key "ROW"
        r.tuple)) else none
    | "JSON_TABLE" => some (2, documentTable r)
    | "OPENJSON" => some (2, openedDocument r)
    | "XMLTABLE" => some (2, markupTable r)
    | _ => none
  match rest, ← ahead 1 with
  | some (width, p), some (.symbol "(") =>
    skipCount width
    let within ← p
    return some ⟨false, ← tableAlias r, within⟩
  | _, _ => return none

/-- One table of a `FROM` clause, within at most so many parentheses. -/
def factorUpTo (r : Rules) : Nat → Parser Factor
  | 0 => refuse
  | n + 1 => do
    let d ← dialect
    if ← key "LATERAL" then
      if ← symbol "(" then derivedTable r
      else
        let _ ← name
        let within ← parens (commasBefore ")" (argument r))
        return ⟨false, ← tableAlias r, within.flatten⟩
    else if ← key "TABLE" then
      let within ← parens r.value
      return ⟨false, ← tableAlias r, within⟩
    else if ← symbol "(" then
      match ← attempt (derivedTable r) with
      | some table => return table.turned (← pivots r)
      | none =>
        let first ← factorUpTo r n
        let joins ← many (join? r (factorUpTo r n))
        let within := first.within ++ joins.flatten
        if !joins.isEmpty || first.nested then
          needSymbol ")"
          return ⟨true, ← tableAlias r, within⟩
        else if d.isGeneric then
          needSymbol ")"
          let outer ← tableAlias r
          if outer && first.aliased then refuse
          return ⟨false, outer || first.aliased, within⟩
        else refuse
    else if (d.isGeneric || d.isPostgres) && (← atKey ["UNNEST"]) then
      skip
      unnestTable r
    else
      match ← calledTable? r with
      | some table => return table
      | none => namedTable r

def factor (r : Rules) : Parser Factor := do
  factorUpTo r ((← get).length + 1)

/-- A table and what is joined to it. -/
def joined (r : Rules) : Parser (List Query) := do
  let first ← factor r
  let joins ← many (join? r (factor r))
  return first.within ++ joins.flatten

def tables (r : Rules) : Parser (List Query) := do
  return (← commas (joined r)).flatten

end DbConsole.Sql.Grammar

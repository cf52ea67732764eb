import DbConsole.Sql.Grammar.Call

/-!
Expressions. Of an expression only the queries in it are kept, and of a bare name its parts.
-/
set_option autoImplicit false

namespace DbConsole.Sql.Grammar

open DbConsole.Sql.Parser

/-! ### Special forms -/

/-- The branches of a `CASE`, behind that word. -/
def caseForm (r : Rules) : Parser (List Query) := do
  let operand ← if ← key "WHEN" then pure [] else do
    let operand ← r.value
    need "WHEN"
    pure operand
  let branch : Parser (List Query) := do
    let condition ← r.value
    need "THEN"
    return condition ++ (← r.value)
  let first ← branch
  let others ← many (ifKey "WHEN" branch)
  let otherwise ← ifKey "ELSE" r.value
  need "END"
  return operand ++ first ++ others.flatten ++ otherwise.getD []

def castForm (r : Rules) : Parser (List Query) :=
  parens do
    let value ← r.value
    need "AS"
    let _ ← dataType r
    if ← key "FORMAT" then
      let _ ← literal
      if ← keys ["AT", "TIME", "ZONE"] then
        let _ ← literal
    return value

def convertForm (r : Rules) : Parser (List Query) :=
  parens do
    let value ← r.value
    if ← key "USING" then
      let _ ← name
    else
      needSymbol ","
      let _ ← dataType r
      if ← keys ["CHARACTER", "SET"] then
        let _ ← name
    return value

def extractForm (r : Rules) : Parser (List Query) :=
  parens do
    let _ ← timeUnit
    unless ← key "FROM" do
      if ← supports Dialect.isGeneric then needSymbol "," else refuse
    r.value

def roundingForm (r : Rules) : Parser (List Query) :=
  parens do
    let value ← r.value
    if ← key "TO" then
      let _ ← timeUnit
    else if ← symbol "," then
      unless (← literal) == .number do refuse
    return value

def positionForm (r : Rules) : Parser (List Query) :=
  parens do
    let sought ← r.tight (← strengthOf .between)
    need "IN"
    return sought ++ (← r.value)

def substringForm (r : Rules) : Parser (List Query) :=
  parens do
    let value ← r.value
    let part (word : String) : Parser (List Query) := do
      if ← key word then r.value
      else return ((← ifSymbol "," r.value).getD [])
    let start ← part "FROM"
    let length ← part "FOR"
    return value ++ start ++ length

def overlayForm (r : Rules) : Parser (List Query) :=
  parens do
    let value ← r.value
    need "PLACING"
    let what ← r.value
    need "FROM"
    let start ← r.value
    let length ← ifKey "FOR" r.value
    return value ++ what ++ start ++ length.getD []

def trimForm (r : Rules) : Parser (List Query) :=
  parens do
    let _ ← anyKey ["BOTH", "LEADING", "TRAILING"]
    let value ← r.value
    if ← key "FROM" then return value ++ (← r.value)
    else if (← symbol ",") && (← supports Dialect.isGeneric) then return value ++ (← r.values)
    else return value

def existsForm (r : Rules) : Parser (List Query) :=
  parens r.oneQuery

def matchForm : Parser Unit := do
  let _ ← parens names
  need "AGAINST"
  parens do
    let _ ← literal
    if ← keys ["IN", "NATURAL", "LANGUAGE", "MODE"] then
      let _ ← keys ["WITH", "QUERY", "EXPANSION"]
    else unless ← keys ["IN", "BOOLEAN", "MODE"] do
      let _ ← keys ["WITH", "QUERY", "EXPANSION"]

/-- The values of a structure, behind its keyword. -/
def structForm (r : Rules) : Parser (List Query) := do
  let (typed, closed) ← structFields (structField r (openType r))
  if closed then refuse
  let values ← parens (commas do
    let value ← r.value
    if !typed then
      if ← key "AS" then
        let _ ← ident
    return value)
  return values.flatten

/-- The fields of a dictionary, whose keys are read by the parser given. -/
def dictionaryForm (r : Rules) (field : Parser (List Query)) : Parser (List Query) := do
  needSymbol "\x7b"
  let fields ← commasBefore "\x7d" do
    let k ← field
    needSymbol ":"
    return k ++ (← r.value)
  needSymbol "\x7d"
  return fields.flatten

/-- What stands between braces. -/
def braceForm (r : Rules) : Parser (List Query) := do
  let escaped ← attempt do
    needSymbol "\x7b"
    let within ← if ← key "FN" then do
        let _ ← name
        call r
      else
        match ← next with
        | .word text _ none =>
          if ["t", "d", "ts"].contains text then do
            let _ ← literal
            pure []
          else refuse
        | _ => refuse
    needSymbol "\x7d"
    return within
  match escaped with
  | some within => return within
  | none =>
    if ← supports Dialect.isGeneric then
      dictionaryForm r do
        let _ ← ident
        return []
    else refuse

/-- The elements of an array behind its opening bracket. -/
def arrayForm (r : Rules) : Parser (List Query) := do
  let values ← commasBefore "]" r.value
  needSymbol "]"
  return values.flatten

/-- What stands between parentheses: a query, a value or a tuple. -/
def parenForm (r : Rules) : Parser (List Query) := do
  let within ← if ← atKey ["SELECT", "WITH"] then r.oneQuery else r.values
  needSymbol ")"
  return within

/-! ### The first operand -/

/-- Words that are no names even where the form they begin cannot be read. -/
def reservedIdents : List String :=
  ["EXISTS", "INTERVAL", "STRUCT", "TRIM"]

/-- What follows a word that begins a form of its own; nothing if it begins none. `self` reads
an operand. -/
def wordForm? (r : Rules) (self : Parser Operand) (k : String) :
    Parser (Option (List Query)) := do
  let d ← dialect
  let done (p : Parser (List Query)) : Parser (Option (List Query)) := some <$> p
  match k with
  | "TRUE" | "FALSE" | "NULL" => return some []
  | "CURRENT_CATALOG" | "CURRENT_USER" | "SESSION_USER" | "USER" =>
    if d.isPostgres || d.isGeneric then return some [] else return none
  | "CURRENT_TIMESTAMP" | "CURRENT_TIME" | "CURRENT_DATE" | "LOCALTIME" | "LOCALTIMESTAMP" =>
    if ← symbol "(" then done (Prod.fst <$> arguments r) else return some []
  | "CASE" => done (caseForm r)
  | "CONVERT" => done (convertForm r)
  | "TRY_CONVERT" => if d.isGeneric then done (convertForm r) else return none
  | "CAST" | "TRY_CAST" | "SAFE_CAST" => done (castForm r)
  | "EXISTS" => done (existsForm r)
  | "EXTRACT" => done (extractForm r)
  | "CEIL" | "FLOOR" => done (roundingForm r)
  | "POSITION" =>
    if ← atSymbol "(" then
      match ← attempt (positionForm r) with
      | some within => return some within
      | none => done (call r)
    else return none
  | "SUBSTR" | "SUBSTRING" => done (substringForm r)
  | "OVERLAY" => done (overlayForm r)
  | "TRIM" => done (trimForm r)
  | "INTERVAL" => done do
    let value ← if d.intervalNeedsUnit then r.value else Operand.within <$> self
    intervalUnitsAfterValue
    return value
  | "ARRAY" =>
    if ← symbol "[" then done (arrayForm r)
    else if ← atSymbol "(" then done (existsForm r)
    else return none
  | "NOT" => done do
    if ← key "EXISTS" then existsForm r else r.tight (← strengthOf .not)
  | "MATCH" => if d.matchesAgainst then done (do matchForm; return []) else return none
  | "STRUCT" => if d.isGeneric then done (structForm r) else return none
  | "PRIOR" =>
    if ← isAt .hierarchy then done (do r.tight (← strengthOf .sum)) else return none
  | "MAP" =>
    if d.isGeneric && (← atSymbol "\x7b") then done (dictionaryForm r r.value)
    else return none
  | _ =>
    if d.geometric && geometricTypes.contains k then
      let _ ← literal
      return some []
    else return none

/-- A word that is a name, or the name of a function. -/
def nameForm (r : Rules) (i : Ident) : Parser Operand := do
  if ← atSymbol "(" then return .of (← call r)
  else if i.text.startsWith "_" then
    match ← peek with
    | some (.string .single _) | some (.string .double _) | some (.string .hex _) =>
      skip
      return .of []
    | _ => return ⟨.path [i], []⟩
  else return ⟨.path [i], []⟩

/-- A type before the text of a value of it. -/
def typedLiteral (r : Rules) (self : Parser Operand) : Parser (List Query) := do
  match ← dataType r with
  | .named => refuse
  | .interval =>
    let value ← if ← supports Dialect.intervalNeedsUnit then r.value
      else Operand.within <$> self
    intervalUnitsAfterValue
    return value
  | .known =>
    let _ ← literal
    return []

/-- The operators that stand before their operand in one dialect alone. -/
def isPostgresPrefix (s : String) : Bool :=
  ["!!", "|/", "||/", "@", "#", "@-@", "@@", "?-", "?|"].contains s

/-- What a word begins: a form of its own, or a name where it begins none or where that form
cannot be read; and whether a collation may follow. -/
def wordOperand (r : Rules) (self : Parser Operand) (i : Ident) (k : String) :
    Parser (Operand × Bool) := do
  match ← attempt (wordForm? r self k) with
  | some (some within) => return (.of within, true)
  | some none => return (← nameForm r i, true)
  | none => if reservedIdents.contains k then refuse else return (← nameForm r i, false)

/-- What a token begins, behind that token. -/
def tokenOperand (r : Rules) (self : Parser Operand) (t : Token) : Parser (Operand × Bool) := do
  match t with
  | .word text k quote => wordOperand r self ⟨text, quote⟩ k
  | .number _ _ | .placeholder _ => return (.of [], true)
  | .string kind _ =>
    if kind == .single || kind == .double then joinStrings
    return (.of [], true)
  | .symbol s =>
    if s == "(" then return (.of (← parenForm r), true)
    else if s == "[" then return (.of (← arrayForm r), true)
    else if s == "+" || s == "-" then return (.of (← r.tight (← strengthOf .product)), true)
    else if s == "~" || ((← supports Dialect.isPostgres) && isPostgresPrefix s) then
      return (.of (← r.tight (← strengthOf .sum)), true)
    else if s == ":" || s == "@" then
      match ← nextAdjacent with
      | .word _ _ _ | .number _ false => return (.of [], true)
      | _ => refuse
    else refuse
  | _ => refuse

/-- The first operand of an expression, which holds at most so many intervals. -/
def operandUpTo (r : Rules) : Nat → Parser Operand
  | 0 => refuse
  | n + 1 => do
    let self := operandUpTo r n
    match ← attempt (typedLiteral r self) with
    | some within => return .of within
    | none =>
      let (operand, collates) ←
        if ← atSymbol "\x7b" then do pure (Operand.of (← braceForm r), true)
        else tokenOperand r self (← next)
      if collates && (← atKey ["COLLATE"]) && !(← isAt .columnProperty) then
        optCollation
        return .of operand.within
      else return operand

def operand (r : Rules) : Parser Operand := do
  operandUpTo r ((← get).length + 1)

/-! ### What follows an operand -/

/-- An index or a slice, behind the opening bracket. -/
def subscript (r : Rules) : Parser (List Query) := do
  let lower ← if ← symbol ":" then pure none else some <$> r.value
  if ← symbol "]" then return lower.getD []
  if lower.isSome then needSymbol ":"
  if ← symbol "]" then return lower.getD []
  let upper ← r.value
  if ← symbol "]" then return lower.getD [] ++ upper
  needSymbol ":"
  if ← symbol "]" then return lower.getD [] ++ upper
  let stride ← r.value
  needSymbol "]"
  return lower.getD [] ++ upper ++ stride

/-- The parts of an expression behind points and in brackets. -/
def accesses (r : Rules) : Nat → Operand → Parser Operand
  | 0, e => return e
  | n + 1, e => do
    if ← atSymbol "." then
      match ← ahead 1 with
      | some (.symbol "*") =>
        if ← supports Dialect.isPostgres then
          skipCount 2
          match e.form with
          | .path _ => return ⟨.allOf, e.within⟩
          | _ => refuse
        else return e
      | some (.string .single text) =>
        skipCount 2
        match e.form with
        | .path parts => accesses r n ⟨.path (parts ++ [⟨text, some '\''⟩]), e.within⟩
        | _ => accesses r n (.of e.within)
      | _ =>
        skip
        let part ← r.expression (← strengthOf .access)
        match e.form, part.form with
        | .path front, .path back =>
          accesses r n ⟨.path (front ++ back), e.within ++ part.within⟩
        | _, _ => accesses r n (.of (e.within ++ part.within))
    else if ← symbol "[" then
      accesses r n (.of (e.within ++ (← subscript r)))
    else return e

/-- The list or query of a membership test, behind `IN`. -/
def membership (r : Rules) : Parser (List Query) := do
  if ← key "UNNEST" then parens r.value
  else
    needSymbol "("
    let within ← match ← attempt r.query with
      | some q => pure [q]
      | none =>
        if ← supports Dialect.isSqlite then List.flatten <$> commasBefore ")" r.value
        else r.values
    needSymbol ")"
    return within

def escapeClause : Parser Unit := do
  if ← key "ESCAPE" then
    let _ ← literal

/-- What follows `IS`. -/
def isTest (r : Rules) : Parser (List Query) := do
  let _ ← key "NOT"
  if ← isAnyKey ["NULL", "TRUE", "FALSE", "UNKNOWN"] then return []
  else if ← keys ["DISTINCT", "FROM"] then r.value
  else
    let _ ← anyKey ["NFC", "NFD", "NFKC", "NFKD"]
    need "NORMALIZED"
    return []

/-- The tests that may be negated. -/
def negatableTest (r : Rules) : Parser (List Query) := do
  let like ← strengthOf .like
  let negated ← key "NOT"
  let regexp ← key "REGEXP"
  let rlike ← key "RLIKE"
  let null ← if ← isAt .columnProperty then pure false else key "NULL"
  if regexp || rlike then r.tight like
  else if negated && null then return []
  else if ← key "IN" then membership r
  else if ← key "BETWEEN" then
    let between ← strengthOf .between
    let low ← r.tight between
    need "AND"
    return low ++ (← r.tight between)
  else if ← isAnyKey ["LIKE", "ILIKE"] then
    let _ ← key "ANY"
    let pattern ← r.tight like
    escapeClause
    return pattern
  else
    needs ["SIMILAR", "TO"]
    let pattern ← r.tight like
    escapeClause
    return pattern

/-- The comparisons that may be made with any or all of several values. -/
def isComparison (s : String) : Bool :=
  ["=", "==", "<>", "!=", "<", "<=", ">", ">=", "~", "~*", "!~", "!~*", "~~", "~~*", "!~~",
    "!~~*"].contains s

/-- The right side of an operator that binds so tightly. -/
def rightSide (r : Rules) (strength : Nat) (comparison : Bool) : Parser (List Query) := do
  if ← isAnyKey ["ANY", "ALL", "SOME"] then
    let within ← if (← atSymbol "(") && ["SELECT", "WITH"].contains (← keyAhead 1) then
        r.tight strength
      else parens (r.tight strength)
    if comparison then return within else refuse
  else r.tight strength

/-- Whether a symbol is an operator between two operands. -/
def isOperator (d : Dialect) (s : String) : Bool :=
  ["<=>", "==", ":=", "=", "<>", "!=", ">", ">=", "<", "<=", "+", "-", "*", "%", "||", "|", "^",
    "&", "/", "~", "~*", "!~", "!~*", "~~", "~~*", "!~~", "!~~*", "->", "->>", "#>", "#>>", "@>",
    "<@", "#-", "@?", "@@", "?", "?&", "?|"].contains s ||
  (s == "//" && d.isGeneric) ||
  ((s == "<<" || s == ">>") && d.shiftOperators) ||
  (s == "#" && d.isPostgres) ||
  (s == "&&" && (d.isPostgres || d.isGeneric)) ||
  (s == "^@" && (d.isPostgres || d.isGeneric)) ||
  (d.geometric && pipeSymbols.contains s)

/-- An operator behind an expression and its other operand, if it has one. -/
def operation (r : Rules) (strength : Nat) : Parser (List Query) := do
  let d ← dialect
  match ← peek with
  | some (.word _ k _) =>
    if k == "NOT" || ["IN", "BETWEEN", "LIKE", "ILIKE", "SIMILAR", "RLIKE"].contains k then
      negatableTest r
    else if k == "REGEXP" then
      if d.isSqlite then do skip; r.value else negatableTest r
    else
      skip
      match k with
      | "AND" | "OR" | "XOR" | "OVERLAPS" => rightSide r strength false
      | "IS" => isTest r
      | "NOTNULL" => return []
      | "AT" =>
        needs ["TIME", "ZONE"]
        r.tight strength
      | "MEMBER" => do
        need "OF"
        parens r.value
      | "MATCH" => if d.isSqlite then r.value else refuse
      | "DIV" => if d.isMysql then r.value else refuse
      | "OPERATOR" =>
        if d.isPostgres || d.isGeneric then
          parens do
            skip
            skipMany do
              if ← symbol "." then do skip; return true else return false
          rightSide r strength false
        else refuse
      | _ => refuse
  | some (.operator _) =>
    skip
    rightSide r strength false
  | some (.symbol s) =>
    if s == "::" then
      skip
      let _ ← dataType r
      return []
    else if s == "!" then
      skip
      if d.isPostgres then return [] else refuse
    else if isOperator d s then
      skip
      rightSide r strength (isComparison s)
    else refuse
  | _ => refuse

/-- The operations behind an expression that bind more tightly than a strength. -/
def operations (r : Rules) (least : Nat) : Nat → Operand → Parser Operand
  | 0, e => return e
  | n + 1, e => do
    let strength ← nextStrength
    if strength ≤ least then return e
    else if ← atSymbol "." then return e
    else
      let more ← operation r strength
      operations r least n (.of (e.within ++ more))

/-- An expression, as far as its operators bind more tightly than a strength. -/
def expression (r : Rules) (least : Nat) : Parser Operand := do
  let size := (← get).length + 1
  let first ← operand r
  let whole ← accesses r size first
  operations r least size whole

end DbConsole.Sql.Grammar

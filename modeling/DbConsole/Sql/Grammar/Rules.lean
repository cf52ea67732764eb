import DbConsole.Sql.Grammar.Word
import DbConsole.Sql.Syntax

/-!
The rules of the grammar that may stand inside one another, how tightly operators bind, and options
in parentheses: a name and its value, or one of the few options of another form.
-/
set_option autoImplicit false

namespace DbConsole.Sql.Grammar

open DbConsole.Sql.Parser

/-- What later rules ask of an expression. -/
inductive Form where
  | star
  /-- All columns of something. -/
  | allOf
  /-- A name of so many parts. -/
  | path (parts : List Ident)
  | other

structure Operand where
  form : Form
  within : List Query

def Operand.of (within : List Query) : Operand :=
  ⟨.other, within⟩

/-- The parsers for what may be nested. An expression is read as far as its operators bind more
tightly than a strength. -/
structure Rules where
  expression : Nat → Parser Operand
  query : Parser Query
  statement : Parser Statement
  /-- The definition of a column, as types of rows hold it. -/
  column : Parser (List Query)

namespace Rules

variable (r : Rules)

/-- A whole expression, of which the queries in it are kept. -/
def value : Parser (List Query) := do
  return (← r.expression 0).within

def values : Parser (List Query) := do
  return (← commas r.value).flatten

def tight (strength : Nat) : Parser (List Query) := do
  return (← r.expression strength).within

/-- Values in parentheses, at least one. -/
def tuple : Parser (List Query) :=
  parens r.values

/-- A query, as the only one of a list. -/
def oneQuery : Parser (List Query) := do
  return [← r.query]

end Rules

/-- The classes of operators. -/
inductive Binding where
  | or
  | and
  | not
  | is
  | like
  | between
  | equality
  | json
  | colon
  | pipe
  | caret
  | ampersand
  | xor
  | sum
  | product
  | timeZone
  | cast
  | access

def Binding.strength (d : Dialect) (b : Binding) : Nat :=
  if d.isPostgres then
    match b with
    | .or => 10
    | .and => 20
    | .not => 30
    | .is => 40
    | .equality => 50
    | .like | .between => 60
    | .json | .colon | .pipe | .ampersand => 70
    | .xor => 75
    | .sum => 80
    | .product => 90
    | .caret => 100
    | .timeZone => 110
    | .cast => 140
    | .access => 200
  else
    match b with
    | .or => 5
    | .and => 10
    | .not => 15
    | .json => 16
    | .is => 17
    | .like => 19
    | .equality | .between => 20
    | .colon | .pipe => 21
    | .caret => 22
    | .ampersand => 23
    | .xor => 24
    | .sum => 30
    | .product => 40
    | .timeZone => 41
    | .cast => 50
    | .access => 100

def strengthOf (b : Binding) : Parser Nat := do
  return b.strength (← dialect)

/-- The class of an operator that is a word, as far as the word decides it. -/
def wordBinding? : String → Option Binding
  | "OR" => some .or
  | "AND" => some .and
  | "XOR" => some .xor
  | "IS" => some .is
  | "IN" | "BETWEEN" | "OVERLAPS" | "OPERATOR" => some .between
  | "LIKE" | "ILIKE" | "RLIKE" | "REGEXP" | "MATCH" | "SIMILAR" | "MEMBER" => some .like
  | "DIV" => some .product
  | _ => none

/-- The class of what `NOT` and a word make. -/
def negatedBinding? : String → Option Binding
  | "IN" | "BETWEEN" => some .between
  | "LIKE" | "ILIKE" | "RLIKE" | "REGEXP" | "MATCH" | "SIMILAR" | "MEMBER" => some .like
  | _ => none

def equalitySymbols : List String :=
  [":=", "=", "<", "<=", "<>", "!=", ">", ">=", "==", "~", "~*", "!~", "!~*", "~~", "~~*", "!~~",
    "!~~*", "<=>"]

def jsonSymbols : List String :=
  ["->", "->>", "#>", "#>>", "@>", "<@", "#-", "@?", "@@", "?", "?&", "?|"]

def pipeSymbols : List String :=
  ["|", "?-", "##", "&&", "&<", "&>", "?-|", "&<|", "|&>", "<->", "<^", ">^", "?#", "?||", "~=",
    "<<|", "|>>", "@"]

/-- The symbols that bind otherwise where an operator may be one's own. -/
def jsonLikeSymbols : List String :=
  jsonSymbols ++ ["!", "&&", "^@", "||", "#", ">>", "<<"]

def symbolBinding? (d : Dialect) (s : String) : Option Binding :=
  if d.isPostgres && jsonLikeSymbols.contains s then some .json
  else if equalitySymbols.contains s then some .equality
  else if jsonSymbols.contains s then some .json
  else if pipeSymbols.contains s then some .pipe
  else if ["^", "#", ">>", "<<"].contains s then some .caret
  else if s == "&" then some .ampersand
  else if ["+", "-"].contains s then some .sum
  else if ["*", "/", "//", "%", "||"].contains s then some .product
  else if ["::", "!", "[", "^@"].contains s then some .cast
  else if s == "." then some .access
  else none

/-- How tightly what comes binds to the expression before it; zero if it does not. -/
def nextStrength : Parser Nat := do
  let d ← dialect
  let inColumn ← isAt .columnProperty
  let of (b : Option Binding) : Nat := b.elim 0 (·.strength d)
  match ← peek with
  | some (.word _ k _) =>
    if k == "NOT" then
      let following ← keyAhead 1
      if following == "NULL" && !inColumn then return of (some .is)
      else return of (negatedBinding? following)
    else if k == "AT" then
      if (← keyAhead 1) == "TIME" && (← keyAhead 2) == "ZONE" then return of (some .timeZone)
      else return 0
    else if k == "NOTNULL" && d.notNullOperator then return of (some .is)
    else if k == "COLLATE" && d.isPostgres && !inColumn then return 120
    else return of (wordBinding? k)
  | some (.symbol s) =>
    if s == ":" then
      if d.isPostgres then return 0
      else
        match ← ahead 1 with
        | some (.string .single _) | some (.number _ _) => return 0
        | _ => return of (some .colon)
    else return of (symbolBinding? d s)
  | some (.operator _) => return of (some .json)
  | _ => return 0

/-! ### Options -/

def sortDirection : Parser Unit := do
  let _ ← anyKey ["ASC", "DESC"]

/-- The values at which a table is parted, behind `PARTITION`. -/
def partitionOption (r : Rules) : Parser (List Query) :=
  parens do
    let _ ← ident
    need "RANGE"
    let _ ← anyKey ["LEFT", "RIGHT"]
    needs ["FOR", "VALUES"]
    r.tuple

/-- The index in whose order the rows of a table lie, behind `CLUSTERED`. -/
def clusteredOption : Parser Unit := do
  if ← keys ["COLUMNSTORE", "INDEX"] then
    if ← key "ORDER" then
      let _ ← parenIdents
  else
    need "INDEX"
    let _ ← parens (commas do
      let _ ← ident
      sortDirection)

/-- A name, an equals sign and a value. -/
def assignedOption (r : Rules) : Parser (List Query) := do
  let _ ← ident
  needSymbol "="
  r.value

def option (r : Rules) : Parser (List Query) := do
  if ← supports Dialect.isGeneric then
    if ← key "HEAP" then return []
    else if ← key "PARTITION" then partitionOption r
    else if ← key "CLUSTERED" then
      clusteredOption
      return []
    else assignedOption r
  else assignedOption r

/-- At least one option in parentheses, behind the keywords. -/
def optionsAfter (r : Rules) (ks : List String) : Parser (Option (List Query)) :=
  ifKeys ks (List.flatten <$> parens (commas (option r)))

/-- What is read in parentheses behind a keyword, and whether it is anything at all. -/
structure OptionList where
  given : Bool
  within : List Query

/-- Any number of options in parentheses, behind the keyword. -/
def optionListAfter (r : Rules) (k : String) : Parser (Option OptionList) :=
  ifKey k do
    let options ← parens (commasBefore ")" (option r))
    return ⟨!options.isEmpty, options.flatten⟩

/-- The queries in options, if these are given. -/
def OptionList.queries : Option OptionList → List Query
  | some l => l.within
  | none => []

end DbConsole.Sql.Grammar

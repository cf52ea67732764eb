import DbConsole.Sql.Keyword
import DbConsole.Sql.Parser
import DbConsole.Sql.Syntax

/-!
Names, aliases, literals, and the lists of words that cannot be aliases.
-/
set_option autoImplicit false

namespace DbConsole.Sql.Grammar

open DbConsole.Sql.Parser

/-- The token as a part of a name. -/
def identOf? : Token → Option Ident
  | .word text _ quote => some ⟨text, quote⟩
  | .string .single text => some ⟨text, some '\''⟩
  | .string .double text => some ⟨text, some '"'⟩
  | _ => none

def ident : Parser Ident := do
  match identOf? (← next) with
  | some i => return i
  | none => refuse

def optIdent : Parser (Option Ident) :=
  attempt ident

/-- A name of one or more parts with points between them. -/
def name : Parser Name := do
  let first ← ident
  return first :: (← many (ifSymbol "." ident))

/-- A name whose last part may be a star. -/
def namePattern : Parser Name := do
  let part : Parser Ident := do
    if ← symbol "*" then return ⟨"*", none⟩ else ident
  let first ← part
  return first :: (← many (ifSymbol "." part))

def names : Parser (List Name) :=
  commas name

def parenIdents : Parser (List Ident) :=
  parens (commas ident)

/-- Names in parentheses, if a parenthesis opens. -/
def optParenIdents : Parser (List Ident) := do
  if ← atSymbol "(" then parenIdents else return []

/-- A name, as far as it is one. The token at which it breaks off is read too. -/
def looseName : Parser Unit :=
  skipMany do
    let part ← (← peek).elim (pure false) fun t => do
      skip
      return (identOf? t).isSome
    if part then symbol "." else return false

/-- Names and anything else up to an equals sign or the end of the statement. -/
def looseNames : Parser Unit :=
  skipMany do
    if (← atEnd) || (← atSymbol "=") || (← atSymbol ";") then return false
    else
      skip
      return true

def ifNotExists : Parser Bool :=
  keys ["IF", "NOT", "EXISTS"]

def ifExists : Parser Bool :=
  keys ["IF", "EXISTS"]

/-- The keywords that end a select item, so that they are no alias of it. -/
def endsColumn : List String :=
  ["WITH", "EXPLAIN", "ANALYZE", "SELECT", "WHERE", "GROUP", "SORT", "HAVING", "ORDER", "TOP",
    "LATERAL", "VIEW", "LIMIT", "OFFSET", "FETCH", "UNION", "EXCEPT", "EXCLUDE", "INTERSECT",
    "MINUS", "CLUSTER", "DISTRIBUTE", "RETURNING", "FROM", "INTO", "END"]

/-- The keywords that end a table of a `FROM` clause, so that they are no alias of it. -/
def endsTable : List String :=
  ["WITH", "EXPLAIN", "ANALYZE", "SELECT", "WHERE", "GROUP", "SORT", "HAVING", "ORDER", "PIVOT",
    "UNPIVOT", "TOP", "LATERAL", "VIEW", "LIMIT", "OFFSET", "FETCH", "UNION", "EXCEPT",
    "INTERSECT", "MINUS", "ON", "JOIN", "INNER", "CROSS", "FULL", "LEFT", "RIGHT", "NATURAL",
    "USING", "CLUSTER", "DISTRIBUTE", "GLOBAL", "ANTI", "SEMI", "RETURNING", "ASOF",
    "MATCH_CONDITION", "OUTER", "SET", "QUALIFY", "WINDOW", "END", "FOR", "PARTITION",
    "PREWHERE", "SETTINGS", "FORMAT", "START", "CONNECT", "MATCH_RECOGNIZE", "SAMPLE",
    "TABLESAMPLE", "FROM", "OPEN"]

/-- An alias, which without `AS` is none of the words given. -/
def aliasUnless (reserved : List String) : Parser (Option Ident) := do
  let explicit ← key "AS"
  match ← peek with
  | some (.word text k quote) =>
    if explicit || !reserved.contains k then do skip; return some ⟨text, quote⟩ else return none
  | some t =>
    match identOf? t with
    | some i => do skip; return some i
    | none => if explicit then refuse else return none
  | none => if explicit then refuse else return none

def columnAlias : Parser (Option Ident) :=
  aliasUnless endsColumn

def tableAliasName : Parser (Option Ident) := do
  aliasUnless (endsTable ++ (← dialect).reservedTableAliases)

/-- A number that is written in digits alone. -/
def wholeNumber? (text : String) : Option Nat :=
  if text.isEmpty || !text.all Text.isAsciiDigit then none
  else some (text.foldl (fun n c => n * 10 + (c.toNat - 48)) 0)

/-- A whole number below the bound that is written as a number. -/
def numberBelow (bound : Nat) : Parser Unit := do
  match ← next with
  | .number text _ =>
    unless (wholeNumber? text).any (· < bound) do refuse
  | _ => refuse

/-- A whole number of 64 bits. -/
def literalNat : Parser Unit :=
  numberBelow (Nat.pow 2 64)

/-- Whether a token is a word that no keyword is written like. -/
def isPlainWord : Token → Bool
  | .word _ k quote => quote.isSome || !isKeyword k
  | _ => false

/-- A string literal of the plain kinds, or a word in its stead. -/
def literalString : Parser String := do
  match ← next with
  | .word text k quote =>
    if isPlainWord (.word text k quote) then return text else refuse
  | .string kind text =>
    match kind with
    | .single | .double | .unicode => return text
    | .escaped =>
      if ← supports Dialect.escapeStrings then return text else refuse
    | _ => refuse
  | _ => refuse

/-- Strings one after another, which some dialects join. -/
def joinStrings : Parser Unit := do
  if ← supports Dialect.joinsStrings then
    skipMany do
      match ← peek with
      | some (.string .single _) | some (.string .double _) => do skip; return true
      | _ => return false

/-- What kind of literal value was read. -/
inductive Literal where
  | number
  /-- A string between single or double quotes. -/
  | text
  /-- A string of any other kind. -/
  | markedText
  | placeholder
  | constant
  deriving DecidableEq

/-- A literal value. -/
def literal : Parser Literal := do
  match ← next with
  | .word _ k quote =>
    if k == "NULL" || k == "TRUE" || k == "FALSE" then return .constant
    else if quote == some '"' then return .text
    else refuse
  | .number _ _ => return .number
  | .string kind _ =>
    if kind == .single || kind == .double then
      joinStrings
      return .text
    else return .markedText
  | .placeholder _ => return .placeholder
  | .symbol s =>
    if s == ":" || s == "@" then
      match ← nextAdjacent with
      | .word _ _ _ | .number _ false => return .placeholder
      | _ => refuse
    else refuse
  | _ => refuse

end DbConsole.Sql.Grammar

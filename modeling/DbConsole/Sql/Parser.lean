import DbConsole.Sql.Lexeme

/-!
Parsers over the tokens of SQL text, and the small ones of which the grammar is made. A parser
that refuses may be given another try; one that has gone too deep ends everything.
-/
set_option autoImplicit false

namespace DbConsole.Sql

inductive Fault where
  | refused
  | tooDeep
  deriving DecidableEq, Repr

/-- Where an expression stands, as far as it changes what may follow it. -/
inductive Position where
  | anywhere
  /-- Among the properties of a column, where `NOT NULL` and `COLLATE` end an expression. -/
  | columnProperty
  /-- In the condition of a hierarchical query, where `PRIOR` is an operator. -/
  | hierarchy
  deriving DecidableEq, Repr

structure Setting where
  dialect : Dialect
  position : Position

abbrev Parser (α : Type) := ReaderT Setting (StateT (List Lexeme) (Except Fault)) α

namespace Parser

variable {α β : Type}

def refuse : Parser α :=
  fun _ _ => .error .refused

def tooDeep : Parser α :=
  fun _ _ => .error .tooDeep

def dialect : Parser Dialect := do
  return (← read).dialect

/-- Whether the dialect has a property. -/
def supports (p : Dialect → Bool) : Parser Bool := do
  return p (← read).dialect

def isAt (p : Position) : Parser Bool := do
  return (← read).position == p

def standingAt (p : Position) (parser : Parser α) : Parser α :=
  fun s => parser { s with position := p }

/-- The token so many places ahead. -/
def ahead (n : Nat) : Parser (Option Token) := do
  return (← get)[n]?.map Lexeme.token

def peek : Parser (Option Token) :=
  ahead 0

/-- The keyword so many places ahead; nothing if another token stands there. -/
def keyAhead (n : Nat) : Parser String := do
  return (← ahead n).elim "" Token.key

def next : Parser Token := fun _ s =>
  match s with
  | [] => .error .refused
  | l :: rest => .ok (l.token, rest)

/-- The next token, between which and the one before it nothing may stand. -/
def nextAdjacent : Parser Token := fun _ s =>
  match s with
  | [] => .error .refused
  | l :: rest => if l.spaced then .error .refused else .ok (l.token, rest)

def skip : Parser Unit :=
  modify List.tail

def atEnd : Parser Bool := do
  return (← get).isEmpty

/-- What the parser reads, or nothing if it refuses; what it then has read is given back. -/
def attempt (p : Parser α) : Parser (Option α) := fun e s =>
  match p e s with
  | .ok (a, s) => .ok (some a, s)
  | .error .refused => .ok (none, s)
  | .error .tooDeep => .error .tooDeep

/-- Whether the parser accepts what comes; nothing is read. -/
def looksLike (p : Parser α) : Parser Bool := fun e s =>
  match p e s with
  | .ok _ => .ok (true, s)
  | .error .refused => .ok (false, s)
  | .error .tooDeep => .error .tooDeep

/-- Whether one of the keywords comes. -/
def atKey (ks : List String) : Parser Bool := do
  return ks.contains (← keyAhead 0)

/-- Reads the keyword if it comes. -/
def key (k : String) : Parser Bool := do
  if (← keyAhead 0) == k then do skip; return true else return false

/-- The tokens that follow the keywords, if all of these come. -/
def afterKeys : List String → List Lexeme → Option (List Lexeme)
  | [], s => some s
  | _ :: _, [] => none
  | k :: ks, l :: s => if l.token.key == k then afterKeys ks s else none

/-- Reads the keywords if all of them come. -/
def keys (ks : List String) : Parser Bool := fun _ s =>
  match afterKeys ks s with
  | some s => .ok (true, s)
  | none => .ok (false, s)

/-- Reads the first of the phrases that comes whole. -/
def anyPhrase : List (List String) → Parser Bool
  | [] => return false
  | ks :: more => do if ← keys ks then return true else anyPhrase more

/-- Reads whichever of the keywords comes. -/
def anyKey (ks : List String) : Parser (Option String) := do
  let k ← keyAhead 0
  if ks.contains k then do skip; return some k else return none

def isAnyKey (ks : List String) : Parser Bool := do
  return (← anyKey ks).isSome

def need (k : String) : Parser Unit := do
  unless ← key k do refuse

def needs (ks : List String) : Parser Unit := do
  unless ← keys ks do refuse

def needAny (ks : List String) : Parser String := do
  match ← anyKey ks with
  | some k => return k
  | none => refuse

def atSymbol (t : String) : Parser Bool := do
  return (← peek) == some (.symbol t)

def symbol (t : String) : Parser Bool := do
  if ← atSymbol t then do skip; return true else return false

def needSymbol (t : String) : Parser Unit := do
  unless ← symbol t do refuse

/-- Reads with the parser if the keyword comes. -/
def ifKey (k : String) (p : Parser α) : Parser (Option α) := do
  if ← key k then some <$> p else return none

def ifKeys (ks : List String) (p : Parser α) : Parser (Option α) := do
  if ← keys ks then some <$> p else return none

def ifSymbol (t : String) (p : Parser α) : Parser (Option α) := do
  if ← symbol t then some <$> p else return none

/-- What the parser finds between parentheses. -/
def parens (p : Parser α) : Parser α := do
  needSymbol "("
  let a ← p
  needSymbol ")"
  return a

/-- What the parser finds time after time, at most so many times. -/
def manyUpTo (p : Parser (Option α)) : Nat → Parser (List α)
  | 0 => return []
  | n + 1 => do
    match ← p with
    | none => return []
    | some a => return a :: (← manyUpTo p n)

/-- What the parser finds until it finds nothing more. Each find takes a token at least. -/
def many (p : Parser (Option α)) : Parser (List α) := do
  manyUpTo p ((← get).length + 1)

/-- Reads with the parser until it finds nothing more. -/
def skipMany (p : Parser Bool) : Parser Unit := do
  let _ ← many do
    if ← p then return some () else return none

/-- One or more, with commas between them. -/
def commas (p : Parser α) : Parser (List α) := do
  let first ← p
  return first :: (← many (ifSymbol "," p))

/-- Any number, with commas between them, before the symbol. -/
def commasBefore (close : String) (p : Parser α) : Parser (List α) := do
  if ← atSymbol close then return [] else commas p

/-- Reads whatever comes, so many times. -/
def skipCount : Nat → Parser Unit
  | 0 => return ()
  | n + 1 => do skip; skipCount n

end Parser

end DbConsole.Sql

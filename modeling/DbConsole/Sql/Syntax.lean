/-!
What is kept of parsed statements: which rows, tables and other objects a statement touches, how these
are named, and the statements and queries inside it.
-/
set_option autoImplicit false

namespace DbConsole.Sql

/-- One part of a name: its text, and the quote that opened it. -/
structure Ident where
  text : String
  quote : Option Char
  deriving DecidableEq, Repr

/-- A name of parts, the outermost first. -/
abbrev Name := List Ident

namespace Ident

/-- The text with each quote in it written twice. A quote after a backslash or before another
quote counts as written already. `prev` is the character before the text. -/
def doubled (quote : Char) : Char → List Char → List Char
  | _, [] => []
  | prev, [c] => if c == quote && prev != '\\' then [c, c] else [c]
  | prev, c :: d :: rest =>
    if c == quote then
      if prev == '\\' then c :: doubled quote prev (d :: rest)
      else if d == quote then c :: d :: doubled quote c rest
      else c :: c :: doubled quote c (d :: rest)
    else c :: doubled quote c (d :: rest)

/-- The part between its quotes. -/
def render (i : Ident) : List Char :=
  match i.quote with
  | none => i.text.toList
  | some '[' => '[' :: i.text.toList ++ [']']
  | some q => q :: doubled q (Char.ofNat 0) i.text.toList ++ [q]

end Ident

namespace Name

/-- The parts with points between them. -/
def render (n : Name) : List Char :=
  List.intercalate ['.'] (n.map Ident.render)

/-- What follows the last point. -/
def afterLastPoint (cs : List Char) : List Char :=
  (cs.reverse.takeWhile (· != '.')).reverse

def isQuote (c : Char) : Bool :=
  c == '"' || c.toNat == 0x60 || c == '[' || c == ']'

/-- The printed name behind its last point, without the quotes at its ends. -/
def bare (n : Name) : String :=
  let last := afterLastPoint n.render
  String.ofList ((last.dropWhile isQuote).reverse.dropWhile isQuote).reverse

end Name

/-- What a `DROP` statement removes. -/
inductive DropTarget where
  | table
  | index
  | database
  | schema
  | other
  deriving DecidableEq, Repr

/-- One change of an `ALTER TABLE` statement. -/
inductive TableChange where
  | dropColumn
  | rename (newName : Name)
  | other
  deriving DecidableEq, Repr

/-- What a schema statement other than a drop, a truncation or a change of a table does. -/
inductive SchemaChange where
  | create
  | alter
  | drop
  | comment
  deriving DecidableEq, Repr

mutual

/-- A query: its common table expressions, its body, and the queries in its other clauses. -/
inductive Query where
  | mk (tables : List Query) (body : Body) (within : List Query)

inductive Body where
  /-- A `SELECT`: whether it makes a table of its rows, and the queries in it. -/
  | select (makesTable : Bool) (within : List Query)
  | nested (query : Query)
  | combined (left right : Body)
  | values (within : List Query)
  | table
  | statement (statement : Statement)

/-- A statement, with the queries that stand in it. -/
inductive Statement where
  | query (query : Query)
  /-- A look at a table's columns. -/
  | describe
  | show (within : List Query)
  /-- An explanation of a statement, and whether that is run for it. -/
  | explain (runs : Bool) (within : List Query) (operand : Statement)
  | insert (within : List Query)
  | update (filtered : Bool) (within : List Query)
  | delete (filtered : Bool) (within : List Query)
  | merge (within : List Query)
  | copy (within : List Query)
  | drop (target : DropTarget) (names : List Name)
  | alterTable (name : Name) (changes : List TableChange)
  | truncate
  | renameTables (renames : List (Name × Name))
  | schema (change : SchemaChange) (within : List Query)
  | transaction
  /-- A statement that may do anything, with the statements that stand in it. -/
  | other (within : List Query) (block : List Statement)
  /-- A statement that puts statements by, to be run later. -/
  | storing (block : List Statement)

end

end DbConsole.Sql

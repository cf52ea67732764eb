import DbConsole.Cell
import DbConsole.Number.Notation
import DbConsole.Schema

/-!
Whether a row may be sent to a table: its columns exist, and each holds a value that its type
admits.
-/
set_option autoImplicit false

namespace DbConsole

inductive RowWrite where
  | insert
  | update
  deriving DecidableEq, Repr

/-- What a column type admits. -/
inductive ColumnKind where
  | integer
  | decimal
  | boolean
  | other
  deriving DecidableEq, Repr

namespace ColumnKind

def integerTypes : List String :=
  ["int", "integer", "smallint", "bigint", "tinyint", "mediumint", "int2", "int4", "int8",
    "serial", "bigserial", "smallserial"]

def decimalTypes : List String :=
  ["decimal", "numeric", "real", "float", "float4", "float8", "double", "double precision"]

def booleanTypes : List String :=
  ["bool", "boolean"]

/-- The kind of a column type, of which a size in parentheses and the case do not count. -/
def ofType (dataType : String) : ColumnKind :=
  let base := Text.trim (String.ofList ((Text.asciiLower dataType).toList.takeWhile (· != '(')))
  if base ∈ integerTypes then .integer
  else if base ∈ decimalTypes then .decimal
  else if base ∈ booleanTypes then .boolean
  else .other

def admits : ColumnKind → Cell → Bool
  | _, .null => true
  | .other, _ => true
  | .integer, .number n => n.isWhole
  | .integer, .text s => (Notation.integer? (Text.trim s)).isSome
  | .decimal, .number _ => true
  | .decimal, .text s => Notation.isDecimal (Text.trim s)
  | .boolean, .bool _ => true
  | .boolean, .number n => n == .whole 0 || n == .whole 1
  | .boolean, .text s =>
    ["true", "false", "t", "f", "1", "0"].contains (Text.asciiLower (Text.trim s))
  | _, _ => false

end ColumnKind

/-- Checks one cell: that its column exists, then NULL, then the type. -/
def checkCell (columns : List Column) (name : String) (cell : Cell) : Except Error Unit :=
  match columns.find? (·.name == name) with
  | none => .error (.invalid (.unknownColumn name))
  | some column =>
    if cell.isNull && !column.nullable && !column.hasDefault then
      .error (.invalid (.nullForbidden name))
    else if !(ColumnKind.ofType column.dataType).admits cell then
      .error (.invalid (.wrongCell name column.dataType cell.typeName cell.display))
    else .ok ()

def checkCells (columns : List Column) : List (String × Cell) → Except Error Unit
  | [] => .ok ()
  | (name, cell) :: rest => do
    checkCell columns name cell
    checkCells columns rest

/-- Checks a row before it is sent; cells are checked in the order of their names. -/
def checkRow (row : Row) (columns : List Column) (write : RowWrite) : Except Error Unit :=
  if row.isEmpty then
    .error (.invalid (match write with
      | .insert => .emptyInsert
      | .update => .emptyUpdate))
  else checkCells columns row.entries

end DbConsole

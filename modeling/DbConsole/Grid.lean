import DbConsole.Listing
import DbConsole.Schema
import DbConsole.Text.Width
import DbConsole.Wire.Listing

/-!
Rows as text: a grid of named columns drawn with lines, a Markdown table, or indented JSON.
-/
set_option autoImplicit false

namespace DbConsole

inductive Format where
  | json
  | table
  | markdown
  deriving DecidableEq, Repr

/-- The format of the name, letter for letter. -/
def Format.ofName? : String → Option Format
  | "json" => some .json
  | "table" => some .table
  | "markdown" => some .markdown
  | _ => none

instance : Wire Format where
  shape := .choice ["json", "table", "markdown"]
  toValue
    | .json => (⟨0, by decide⟩ : Fin 3)
    | .table => (⟨1, by decide⟩ : Fin 3)
    | .markdown => (⟨2, by decide⟩ : Fin 3)
  ofValue (i : Fin 3) :=
    match i with
    | 0 => .json
    | 1 => .table
    | 2 => .markdown

namespace Grid

/-- The columns of the schema in their order, then those that only rows have. -/
def orderedColumns (schema : List Column) (rows : List Row) : List String :=
  addNames (schema.map (·.name)) (columnNames rows)

def spaces (n : Nat) : String :=
  String.ofList (List.replicate n ' ')

def padRight (s : String) (width : Nat) : String :=
  s ++ spaces (width - Text.width s)

def padLeft (s : String) (width : Nat) : String :=
  spaces (width - Text.width s) ++ s

/-- The text in the middle; an odd space goes to the right. -/
def padCenter (s : String) (width : Nat) : String :=
  let total := width - Text.width s
  spaces (total / 2) ++ s ++ spaces (total - total / 2)

/-- The width of a column: that of its name or of its widest cell. -/
def columnWidth (rows : List Row) (column : String) : Nat :=
  rows.foldl (fun w row =>
    match row.get? column with
    | some cell => max w (Text.width cell.display)
    | none => w) (Text.width column)

def cellOf (row : Row) (column : String) : Cell :=
  (row.get? column).getD .null

/-- The cell at its width: numbers to the right, everything else to the left. -/
def alignedCell (cell : Cell) (width : Nat) : String :=
  if cell.isNumber then padLeft cell.display width else padRight cell.display width

def separator (widths : List Nat) : String :=
  String.join (widths.map fun w => "+" ++ String.ofList (List.replicate (w + 2) '-')) ++ "+\n"

/-- One line of fields. -/
def line (fields : List String) : String :=
  String.join (fields.map fun f => "| " ++ f ++ " ") ++ "|\n"

/-- Rows between lines, with the column names on top and a count below. -/
def drawn (columns : List String) (rows : List Row) : String :=
  if columns.isEmpty then "Empty set\n"
  else
    let widths := columns.map (columnWidth rows)
    let rule := separator widths
    let header := line (List.zipWith padCenter columns widths)
    let body := rows.map fun row =>
      line (List.zipWith (fun c w => alignedCell (cellOf row c) w) columns widths)
    rule ++ header ++ rule ++ String.join body ++ rule ++ toString rows.length ++
      (if rows.length = 1 then " row" else " rows") ++ " in set\n"

/-- Bars within a cell are escaped. -/
def escapeBars (s : String) : String :=
  String.ofList (s.toList.flatMap fun c => if c = '|' then ['\\', '|'] else [c])

def markdown (columns : List String) (rows : List Row) : String :=
  if columns.isEmpty then "*Empty set*\n"
  else
    let header := line columns
    let rule := String.join (columns.map fun _ => "|---") ++ "|\n"
    let body := rows.map fun row => line (columns.map fun c => escapeBars (cellOf row c).display)
    header ++ rule ++ String.join body ++ "\n*" ++ toString rows.length ++ " rows*\n"

/-- Rows in the given format; JSON shows all cells, whatever the columns. -/
def render (format : Format) (columns : List String) (rows : List Row) : String :=
  match format with
  | .json => (Wire.toJson rows).pretty
  | .table => drawn columns rows
  | .markdown => markdown columns rows

def intCell : Option Int64 → Cell
  | none => .null
  | some n => .number (.whole n.toInt)

def textCell : Option String → Cell
  | none => .null
  | some s => .text s

/-- Tables as rows of a listing, and the order of its columns. -/
def ofTables (tables : List Table) : List String × List Row :=
  (["name", "type", "rows"], tables.map fun t => Dict.ofList
    [("name", .text t.name), ("type", .text t.kind), ("rows", intCell t.rowEstimate)])

def ofColumns (columns : List Column) : List String × List Row :=
  (["name", "type", "nullable", "key", "default"], columns.map fun c => Dict.ofList
    [("name", .text c.name), ("type", .text c.dataType), ("nullable", .bool c.nullable),
      ("key", .text (if c.isPrimaryKey then "PRI" else "")),
      ("default", textCell c.defaultValue)])

def ofIndexes (indexes : List Index) : List String × List Row :=
  (["index", "unique", "primary", "columns"], indexes.map fun i => Dict.ofList
    [("index", .text i.name), ("unique", .bool i.isUnique), ("primary", .bool i.isPrimary),
      ("columns", .text (String.intercalate ", " i.columns))])

end Grid

end DbConsole

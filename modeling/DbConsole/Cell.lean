import DbConsole.Json.Writer

/-!
Cells of a table row. Lists and objects occur where a column holds JSON.
-/
set_option autoImplicit false

namespace DbConsole

inductive Cell where
  | null
  | bool (value : Bool)
  | number (value : Number)
  | text (value : String)
  /-- A list or an object. -/
  | json (value : Json)

namespace Cell

instance : Inhabited Cell := ⟨.null⟩

def ofJson : Json → Cell
  | .null => .null
  | .bool b => .bool b
  | .number n => .number n
  | .string s => .text s
  | j => .json j

def toJson : Cell → Json
  | .null => .null
  | .bool b => .bool b
  | .number n => .number n
  | .text s => .string s
  | .json j => j

def isNull : Cell → Bool
  | .null => true
  | _ => false

def isNumber : Cell → Bool
  | .number _ => true
  | _ => false

/-- The kind of value, as messages name it. -/
def typeName : Cell → String
  | .null => "null"
  | .bool _ => "boolean"
  | .number _ => "number"
  | .text _ => "string"
  | .json _ => "json"

/-- The text of the cell in a listing. -/
def display : Cell → String
  | .null => "NULL"
  | .bool true => "true"
  | .bool false => "false"
  | .number n => n.text
  | .text s => s
  | .json j => j.compact

end Cell

/-- A row: its cells by column name. -/
abbrev Row := Dict Cell

end DbConsole

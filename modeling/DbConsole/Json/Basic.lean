import DbConsole.Dict
import DbConsole.Number.Shortest

/-!
JSON documents. Whole numbers stay exact as far as 64 bits, signed or unsigned, reach; all other
numbers are 64-bit floating point. Fields of an object stand in the order in which they are
written.
-/
set_option autoImplicit false

namespace DbConsole

inductive Number where
  | whole (value : Int)
  | real (value : Binary64)
  deriving DecidableEq

namespace Number

def text : Number → String
  | .whole n => toString n
  | .real x => x.text

/-- Whether the number is an integer of 64 bits. -/
def isWhole : Number → Bool
  | .whole _ => true
  | .real _ => false

end Number

inductive Json where
  | null
  | bool (value : Bool)
  | number (value : Number)
  | string (value : String)
  | array (items : List Json)
  | object (fields : List (String × Json))

namespace Json

instance : Inhabited Json := ⟨.null⟩

mutual
def beq : Json → Json → Bool
  | .null, .null => true
  | .bool a, .bool b => a == b
  | .number a, .number b => a == b
  | .string a, .string b => a == b
  | .array a, .array b => beqItems a b
  | .object a, .object b => beqFields a b
  | _, _ => false

def beqItems : List Json → List Json → Bool
  | [], [] => true
  | a :: as, b :: bs => beq a b && beqItems as bs
  | _, _ => false

def beqFields : List (String × Json) → List (String × Json) → Bool
  | [], [] => true
  | (k, a) :: as, (l, b) :: bs => k == l && beq a b && beqFields as bs
  | _, _ => false
end

instance : BEq Json := ⟨beq⟩

def nat (n : Nat) : Json :=
  .number (.whole n)

def int (n : Int) : Json :=
  .number (.whole n)

/-- A value that may be missing, written as null. -/
def ofOption {α : Type} (f : α → Json) : Option α → Json
  | none => .null
  | some a => f a

/-- The first field of the name. -/
def field? (name : String) : Json → Option Json
  | .object fields => (fields.find? (·.1 == name)).map (·.2)
  | _ => none

end Json

namespace Json

mutual
/-- The document with the fields of each object in ascending order, a repeated field holding its
last value. -/
def canonical : Json → Json
  | .array items => .array (canonicalItems items)
  | .object fields => .object (sortPairs (canonicalFields fields))
  | j => j

def canonicalItems : List Json → List Json
  | [] => []
  | j :: rest => canonical j :: canonicalItems rest

def canonicalFields : List (String × Json) → List (String × Json)
  | [] => []
  | (k, j) :: rest => (k, canonical j) :: canonicalFields rest
end

end Json

end DbConsole

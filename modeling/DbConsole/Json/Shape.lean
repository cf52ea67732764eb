import DbConsole.Json.Basic

/-!
Shapes of documents: what a message on the wire looks like, and the values that such a message
carries. A record may also stand as a list that holds its fields in order, and an object may hold
fields that the record does not know. The document that carries a value is written with the fields in
the order of the record, and a tag before them.
-/
set_option autoImplicit false

namespace DbConsole.Json

/-- What a record does where a field is missing. -/
inductive Presence where
  /-- It is refused. -/
  | required
  /-- The field has no value; a null is still refused. -/
  | defaulted
  /-- The field has no value, as for a null. A list may end before it only if `inList` holds; it
  is not written without a value if `omitted` holds. -/
  | nullable (inList omitted : Bool)
  deriving DecidableEq

/-- What a field of the record carries. -/
abbrev Presence.Slot (p : Presence) (α : Type) : Type :=
  match p with
  | .required => α
  | .defaulted => Option α
  | .nullable _ _ => Option α

/-- What is read where the field is there. -/
abbrev Presence.Given (p : Presence) (α : Type) : Type :=
  match p with
  | .required => α
  | .defaulted => α
  | .nullable _ _ => Option α

def Presence.slot {α : Type} : (p : Presence) → p.Given α → p.Slot α
  | .required, a => a
  | .defaulted, a => some a
  | .nullable _ _, a => a

/-- The slot of a field that the named fields of an object lack. -/
def Presence.lacking {α : Type} : (p : Presence) → Option (p.Slot α)
  | .required => none
  | .defaulted => some none
  | .nullable _ _ => some none

/-- The slot of a field before which a list ends. -/
def Presence.cutOff {α : Type} : (p : Presence) → Option (p.Slot α)
  | .required => none
  | .defaulted => some none
  | .nullable inList _ => if inList then some none else none

mutual
inductive Shape where
  /-- Any document. -/
  | any
  | bool
  /-- A whole number from 0 up to what so many bits hold. -/
  | natural (bits : Nat)
  /-- A whole number of 64 bits with sign. -/
  | integer
  | text
  | unit
  /-- One of several names. -/
  | choice (names : List String)
  | optional (item : Shape)
  | list (item : Shape)
  | dictionary (item : Shape)
  | record (name : String) (fields : Fields)
  /-- A record whose field `tag` tells which further fields it has. -/
  | tagged (name tag : String) (cases : Cases)

inductive Fields where
  | nil
  | cons (key : String) (shape : Shape) (presence : Presence) (rest : Fields)

inductive Cases where
  | nil
  | cons (name : String) (fields : Fields) (rest : Cases)
end

mutual
/-- The values that documents of the shape carry. -/
def Shape.Value : Shape → Type
  | .any => Json
  | .bool => Bool
  | .natural bits => Fin (Nat.pow 2 bits)
  | .integer => Int64
  | .text => String
  | .unit => Unit
  | .choice names => Fin names.length
  | .optional item => Option item.Value
  | .list item => List item.Value
  | .dictionary item => Dict item.Value
  | .record _ fields => fields.Value
  | .tagged _ _ cases => cases.Value

def Fields.Value : Fields → Type
  | .nil => Unit
  | .cons _ shape presence rest => presence.Slot shape.Value × rest.Value

def Cases.Value : Cases → Type
  | .nil => Empty
  | .cons _ fields rest => fields.Value ⊕ rest.Value
end

/-- The fields of a record of which some have been read. -/
def Fields.Partial : Fields → Type
  | .nil => Unit
  | .cons _ shape presence rest => Option (presence.Given shape.Value) × rest.Partial

def Fields.blank : (fs : Fields) → fs.Partial
  | .nil => ()
  | .cons _ _ _ rest => (none, rest.blank)

/-- The record, if no field that it needs is missing; else the first such field. -/
def Fields.complete : (fs : Fields) → fs.Partial → Except String fs.Value
  | .nil, () => .ok ()
  | .cons key _ presence rest, (given, more) =>
    let slot? := match given with
      | some a => some (presence.slot a)
      | none => presence.lacking
    match slot? with
    | none => .error key
    | some slot => (rest.complete more).map fun v => (slot, v)

def Fields.count : Fields → Nat
  | .nil => 0
  | .cons _ _ _ rest => rest.count + 1

def Cases.names : Cases → List String
  | .nil => []
  | .cons name _ rest => name :: rest.names

/-- What a shape wants, as messages say it. -/
def Shape.expected : Shape → String
  | .any => "any valid JSON value"
  | .bool => "a boolean"
  | .natural bits => "u" ++ toString bits
  | .integer => "i64"
  | .text => "a string"
  | .unit => "unit"
  | .choice _ => "variant identifier"
  | .optional item => item.expected
  | .list _ => "a sequence"
  | .dictionary _ => "a map"
  | .record name _ => "struct " ++ name
  | .tagged name _ _ => "internally tagged enum " ++ name

/-- What a list that stands for a record has to hold. -/
def Fields.expected (what : String) (fields : Fields) : String :=
  what ++ " with " ++ toString fields.count ++
    (if fields.count = 1 then " element" else " elements")

def Presence.write {α : Type} (f : α → Json) : (p : Presence) → p.Slot α → Option Json
  | .required, a => some (f a)
  | .defaulted, a => a.map f
  | .nullable _ omitted, a =>
    match a with
    | some v => some (f v)
    | none => if omitted then none else some .null

mutual
def Shape.write : (s : Shape) → s.Value → Json
  | .any, j => j
  | .bool, b => .bool b
  | .natural _, n => Json.nat n.val
  | .integer, n => Json.int n.toInt
  | .text, t => .string t
  | .unit, _ => .null
  | .choice names, i => .string (names.get i)
  | .optional item, v => match v with
    | none => .null
    | some a => item.write a
  | .list item, vs => .array (vs.map item.write)
  | .dictionary item, d => .object (d.entries.map fun p => (p.1, item.write p.2))
  | .record _ fields, v => .object (fields.write v)
  | .tagged _ tag cases, v => .object (cases.write tag v)

def Fields.write : (fs : Fields) → fs.Value → List (String × Json)
  | .nil, _ => []
  | .cons key shape presence rest, (slot, v) =>
    match presence.write shape.write slot with
    | some j => (key, j) :: rest.write v
    | none => rest.write v

def Cases.write (tag : String) : (cs : Cases) → cs.Value → List (String × Json)
  | .nil, v => nomatch v
  | .cons name fields rest, v => match v with
    | .inl f => (tag, .string name) :: fields.write f
    | .inr r => rest.write tag r
end

end DbConsole.Json

import DbConsole.Json.Fault
import DbConsole.Json.Shape

/-!
Reading a value of a shape from a document that is there as a whole, so that what is wrong with it
has a cause but no place.
-/
set_option autoImplicit false

namespace DbConsole.Json

def Found.of : Json → Found
  | .null => .null
  | .bool b => .bool b
  | .number n => .number n
  | .string s => .string s
  | .array _ => .array
  | .object _ => .object

def natural? (bits : Nat) (n : Number) : Except Cause (Fin (Nat.pow 2 bits)) :=
  match n with
  | .whole v =>
    if h : 0 ≤ v ∧ v.toNat < Nat.pow 2 bits then .ok ⟨v.toNat, h.2⟩
    else .error (.invalidValue (.number n) (Shape.natural bits).expected)
  | .real _ => .error (.invalidType (.number n) (Shape.natural bits).expected)

def integer? (n : Number) : Except Cause Int64 :=
  match n with
  | .whole v =>
    if -(Nat.pow 2 63 : Int) ≤ v ∧ v < Nat.pow 2 63 then .ok (Int64.ofInt v)
    else .error (.invalidValue (.number n) Shape.integer.expected)
  | .real _ => .error (.invalidType (.number n) Shape.integer.expected)

def chosen? (names : List String) (s : String) : Except Cause (Fin names.length) :=
  match names.finIdxOf? s with
  | some i => .ok i
  | none => .error (.unknownVariant s names)

/-- Reads a list item by item. -/
def acceptItems {α : Type} (item : Json → Except Cause α) : List Json → Except Cause (List α)
  | [] => .ok []
  | j :: rest => do
    let a ← item j
    return a :: (← acceptItems item rest)

def acceptPairs {α : Type} (item : Json → Except Cause α) :
    List (String × Json) → Except Cause (List (String × α))
  | [] => .ok []
  | (k, j) :: rest => do
    let a ← item j
    return (k, a) :: (← acceptPairs item rest)

def Presence.accept {α : Type} (item : Json → Except Cause α) :
    (p : Presence) → Json → Except Cause (p.Given α)
  | .required, j => item j
  | .defaulted, j => item j
  | .nullable _ _, j => match j with
    | .null => .ok none
    | j => (item j).map some

/-- Takes the fields of an object one after the other. -/
def acceptFields {π : Type} (take : String → Json → π → Option (Except Cause π)) :
    List (String × Json) → π → Except Cause π
  | [], p => .ok p
  | (k, j) :: rest, p =>
    match take k j p with
    | none => acceptFields take rest p
    | some r => do acceptFields take rest (← r)

mutual
def Shape.accept : (s : Shape) → Json → Except Cause s.Value
  | .any, j => .ok j.canonical
  | .bool, j => match j with
    | .bool b => .ok b
    | j => .error (.invalidType (.of j) Shape.bool.expected)
  | .natural bits, j => match j with
    | .number n => natural? bits n
    | j => .error (.invalidType (.of j) (Shape.natural bits).expected)
  | .integer, j => match j with
    | .number n => integer? n
    | j => .error (.invalidType (.of j) Shape.integer.expected)
  | .text, j => match j with
    | .string s => .ok s
    | j => .error (.invalidType (.of j) Shape.text.expected)
  | .unit, j => match j with
    | .null => .ok ()
    | j => .error (.invalidType (.of j) Shape.unit.expected)
  | .choice names, j => match j with
    | .string s => chosen? names s
    | j => .error (.invalidType (.of j) "string or map")
  | .optional item, j => match j with
    | .null => .ok none
    | j => (item.accept j).map some
  | .list item, j => match j with
    | .array js => acceptItems item.accept js
    | j => .error (.invalidType (.of j) (Shape.list item).expected)
  | .dictionary item, j => match j with
    | .object fs => (acceptPairs item.accept fs).map Dict.ofList
    | j => .error (.invalidType (.of j) (Shape.dictionary item).expected)
  | .record name fields, j => match j with
    | .object fs => do
      let p ← acceptFields fields.acceptKey fs fields.blank
      (fields.complete p).mapError .missingField
    | .array js => fields.acceptList (fields.expected ("struct " ++ name)) 0 js
    | j => .error (.invalidType (.of j) ("struct " ++ name))
  | .tagged name tag cases, j => match j with
    | .object fs =>
      match fs.find? (·.1 == tag) with
      | some (_, .string s) => cases.accept name cases.names (.object (fs.filter (·.1 != tag))) s
      | some (_, j) => .error (.invalidType (.of j) "variant identifier")
      | none => .error (.missingField tag)
    | j => .error (.invalidType (.of j) ("internally tagged enum " ++ name))

/-- Takes one named value into the record; `none` if the record has no such field. -/
def Fields.acceptKey : (fs : Fields) → String → Json → fs.Partial →
    Option (Except Cause fs.Partial)
  | .nil, _, _, _ => none
  | .cons key shape presence rest, name, j, (given, more) =>
    if name = key then
      match given with
      | some _ => some (.error (.duplicateField key))
      | none => some ((presence.accept shape.accept j).map fun a => (some a, more))
    else (rest.acceptKey name j more).map fun r => r.map fun m => (given, m)

/-- Reads the fields from a list that holds them in order, the next one at `index`. -/
def Fields.acceptList (expected : String) :
    (fs : Fields) → Nat → List Json → Except Cause fs.Value
  | .nil, index, js =>
    if js.isEmpty then .ok ()
    else .error (.invalidLength (index + js.length)
      (toString index ++ (if index = 1 then " element in sequence" else " elements in sequence")))
  | .cons _ shape presence rest, index, js => match js with
    | j :: more => do
      let a ← presence.accept shape.accept j
      let v ← rest.acceptList expected (index + 1) more
      return (presence.slot a, v)
    | [] =>
      match presence.cutOff with
      | none => .error (.invalidLength index expected)
      | some slot => do
        let v ← rest.acceptList expected (index + 1) []
        return (slot, v)

/-- Reads the fields that go with a tag. -/
def Cases.accept (name : String) (known : List String) :
    (cs : Cases) → Json → String → Except Cause cs.Value
  | .nil, _, tag => .error (.unknownVariant tag known)
  | .cons case fields rest, j, tag =>
    if tag = case then
      match j with
      | .object fs => do
        let p ← acceptFields fields.acceptKey fs fields.blank
        let v ← (fields.complete p).mapError .missingField
        return .inl v
      | .array js => do
        let expected := fields.expected ("struct variant " ++ name ++ "::" ++ case)
        let v ← fields.acceptList expected 0 js
        return .inl v
      | j => .error (.invalidType (.of j) ("struct variant " ++ name ++ "::" ++ case))
    else (rest.accept name known j tag).map .inr
end

end DbConsole.Json

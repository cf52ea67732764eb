import DbConsole.Json.Shape.Accept
import DbConsole.Json.Value

/-!
Reading a value of a shape from text. The first fault in the order of the text is reported,
whether the text is no document there or the document is not of the shape.
-/
set_option autoImplicit false

namespace DbConsole.Json

namespace Reader

variable {α : Type}

/-- Refuses the value that comes next as not what is expected; scalars are read first. -/
def wrongType (expected : String) : Reader α := do
  match ← peek with
  | some 'n' => do skip; word "ull".toList; fail (.invalidType .null expected)
  | some 't' => do skip; word "rue".toList; fail (.invalidType (.bool true) expected)
  | some 'f' => do skip; word "alse".toList; fail (.invalidType (.bool false) expected)
  | some '"' => do skip; fail (.invalidType (.string (← string)) expected)
  | some '[' => fail (.invalidType .array expected)
  | some '\x7b' => fail (.invalidType .object expected)
  | some c =>
    if c = '-' ∨ Text.isAsciiDigit c then do fail (.invalidType (.number (← number c)) expected)
    else failNext .expectedValue
  | none => failNext .expectedValue

/-- Fails as a list or object does that is refused with a cause of its own: its closing bracket
is read if it comes next. -/
def failClosing (close : Char) (cause : Cause) : Reader α := do
  match ← next with
  | some c =>
    if c = close then do skip; fail cause
    else if c = ',' ∧ close = ']' then do
      skip
      match ← next with
      | _ => fail cause
    else fail cause
  | none => fail cause

/-- The closing bracket of a list that holds as many items as were wanted. -/
def endList : Reader Unit := do
  match ← next with
  | some ']' => skip
  | some ',' =>
    skip
    match ← next with
    | some ']' => failNext .trailingComma
    | _ => failNext .trailingCharacters
  | some _ => failNext .trailingCharacters
  | none => failNext .endInList

/-- Opens a container if the depth allows it, and goes on one level deeper. -/
def descend (depth : Nat) (inside : Nat → Reader α) : Reader α :=
  match depth with
  | 0 => failNext .tooDeep
  | d + 1 => do
    skip
    inside d

def settle (r : Except Cause α) : Reader α :=
  match r with
  | .ok a => pure a
  | .error c => fail c

/-- A string that names a variant. -/
def identifier : Reader String := do
  match ← next with
  | none => failNext .endInValue
  | some '"' => key
  | some _ => wrongType "variant identifier"

def truth : Reader Bool := do
  match ← next with
  | none => failNext .endInValue
  | some 't' => do skip; word "rue".toList; return true
  | some 'f' => do skip; word "alse".toList; return false
  | some _ => wrongType Shape.bool.expected

def onlyNull : Reader Unit := do
  match ← next with
  | none => failNext .endInValue
  | some 'n' => do skip; word "ull".toList
  | some _ => wrongType Shape.unit.expected

def text : Reader String := do
  match ← next with
  | none => failNext .endInValue
  | some '"' => key
  | some _ => wrongType Shape.text.expected

def numeric (expected : String) (convert : Number → Except Cause α) : Reader α := do
  match ← next with
  | none => failNext .endInValue
  | some c =>
    if c = '-' ∨ Text.isAsciiDigit c then do settle (convert (← number c))
    else wrongType expected

/-- A name by itself, or as the key of an object that holds a null. -/
def choice (names : List String) (depth : Nat) : Reader (Fin names.length) := do
  match ← next with
  | none => failNext .endInValue
  | some '"' => do settle (chosen? names (← key))
  | some '\x7b' =>
    descend depth fun _ => do
      let i ← settle (chosen? names (← identifier))
      colon
      onlyNull
      match ← next with
      | some '\x7d' => do skip; return i
      | some _ => fail .expectedValue
      | none => fail .endInObject
  | some _ => failNext .expectedValue

/-- The fields of an object up to its closing brace, which is read. -/
def fieldLoop {π : Type} (take : String → π → Option (Reader π)) :
    Nat → Bool → π → Reader π
  | 0, _, _ => fail .endInObject
  | fuel + 1, first, p => do
    if ← moreFields first then
      let k ← key
      match take k p with
      | none => do
        colon
        skipValue
        fieldLoop take fuel false p
      | some r => do
        let q ← r
        fieldLoop take fuel false q
    else do
      skip
      return p

/-- The fields of a tagged object: the tag, and all others set aside. -/
def taggedLoop (tag : String) (names : List String) (depth : Nat) :
    Nat → Bool → Option String → List (String × Json) →
      Reader (Option String × List (String × Json))
  | 0, _, _, _ => fail .endInObject
  | fuel + 1, first, found, others => do
    if ← moreFields first then
      let k ← key
      if k = tag then
        match found with
        | some _ => failClosing '\x7d' (.duplicateField tag)
        | none => do
          colon
          let i ← settle (chosen? names (← identifier))
          taggedLoop tag names depth fuel false (some (names.get i)) others
      else do
        colon
        let j ← verbatim depth
        taggedLoop tag names depth fuel false found ((k, j) :: others)
    else do
      skip
      return (found, others.reverse)

/-- A tag and the document that goes with it. -/
def taggedParts (name tag : String) (names : List String) (depth : Nat) :
    Reader (String × Json) := do
  match ← next with
  | none => failNext .endInValue
  | some '\x7b' =>
    descend depth fun d => do
      let (found, others) ← taggedLoop tag names d ((← length) + 1) true none []
      match found with
      | none => fail (.missingField tag)
      | some t => return (t, .object others)
  | some '[' =>
    descend depth fun d => do
      if ← moreItems true then
        let i ← settle (chosen? names (← identifier))
        let js ← items (verbatim d) ((← length) + 1) false
        skip
        return (names.get i, .array js)
      else do
        skip
        fail (.missingField tag)
  | some _ => wrongType ("internally tagged enum " ++ name)

def atLarge (r : Except Cause α) : Reader α := fun s =>
  match r with
  | .ok a => .ok (a, s)
  | .error c => .error ⟨c, none⟩

end Reader

def Presence.read {α : Type} (item : Reader α) : (p : Presence) → Reader (p.Given α)
  | .required => item
  | .defaulted => item
  | .nullable _ _ => do
    match ← Reader.next with
    | some 'n' => do Reader.skip; Reader.word "ull".toList; return none
    | _ => return some (← item)

open Reader in
mutual
def Shape.read : (s : Shape) → Nat → Reader s.Value
  | .any, depth => fun s => (verbatim depth s).map fun r => (r.1.canonical, r.2)
  | .bool, _ => truth
  | .natural bits, _ => numeric (Shape.natural bits).expected (natural? bits)
  | .integer, _ => numeric Shape.integer.expected integer?
  | .text, _ => text
  | .unit, _ => onlyNull
  | .choice names, depth => choice names depth
  | .optional item, depth => Presence.read (item.read depth) (.nullable false false)
  | .list item, depth => do
    match ← next with
    | none => failNext .endInValue
    | some '[' =>
      match depth with
      | 0 => failNext .tooDeep
      | d + 1 => listOf (item.read d)
    | some _ => wrongType (Shape.list item).expected
  | .dictionary item, depth => do
    match ← next with
    | none => failNext .endInValue
    | some '\x7b' =>
      match depth with
      | 0 => failNext .tooDeep
      | d + 1 => do return Dict.ofList (← objectOf (item.read d))
    | some _ => wrongType (Shape.dictionary item).expected
  | .record name fields, depth => do
    match ← next with
    | none => failNext .endInValue
    | some '\x7b' =>
      descend depth fun d => do
        let p ← fieldLoop (fields.readKey d) ((← length) + 1) true fields.blank
        settle ((fields.complete p).mapError .missingField)
    | some '[' =>
      descend depth fun d => fields.readList (fields.expected ("struct " ++ name)) d 0
    | some _ => wrongType (Shape.record name fields).expected
  | .tagged name tag cases, depth => do
    let (t, j) ← taggedParts name tag cases.names depth
    atLarge (cases.accept name cases.names j t)

/-- Reads the value of a named field into the record; `none` if it has no such field. -/
def Fields.readKey : (fs : Fields) → Nat → String → fs.Partial → Option (Reader fs.Partial)
  | .nil, _, _, _ => none
  | .cons key shape presence rest, depth, name, (given, more) =>
    if name = key then
      match given with
      | some _ => some (failClosing '\x7d' (.duplicateField key))
      | none => some do
        colon
        let a ← presence.read (shape.read depth)
        return (some a, more)
    else (rest.readKey depth name more).map fun r => do return (given, ← r)

/-- Reads the fields from a list of which `index` items have been passed. -/
def Fields.readList (expected : String) : (fs : Fields) → Nat → Nat → Reader fs.Value
  | .nil, _, _ => endList
  | .cons _ shape presence rest, depth, index => do
    if ← moreItems (index == 0) then
      let a ← presence.read (shape.read depth)
      return (presence.slot a, ← rest.readList expected depth (index + 1))
    else
      match presence.cutOff with
      | none => failClosing ']' (.invalidLength index expected)
      | some slot => return (slot, ← rest.readList expected depth (index + 1))
end

/-- The value of the shape that the text carries. -/
def Shape.parse (s : Shape) (input : String) : Except Fault s.Value :=
  Reader.run (s.read Reader.maxDepth) input.toList

end DbConsole.Json

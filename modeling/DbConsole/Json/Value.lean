import DbConsole.Json.Skip

/-!
Reading any document. Containers may be nested 127 deep.
-/
set_option autoImplicit false

namespace DbConsole.Json

namespace Reader

variable {α : Type}

/-- How many containers may be open at once. -/
def maxDepth : Nat := 127

/-- Whether another item of a list follows; its comma is read. -/
def moreItems (first : Bool) : Reader Bool := do
  match ← next with
  | none => failNext .endInList
  | some ']' => return false
  | some c =>
    if first then return true
    else if c = ',' then do
      skip
      match ← next with
      | none => failNext .endInValue
      | some ']' => failNext .trailingComma
      | some _ => return true
    else failNext .expectedListComma

/-- Whether another field of an object follows; its comma is read, and its key is a string. -/
def moreFields (first : Bool) : Reader Bool := do
  match ← next with
  | none => failNext .endInObject
  | some '\x7d' => return false
  | some c =>
    if first then
      if c = '"' then return true else failNext .keyNotString
    else if c = ',' then do
      skip
      match ← next with
      | none => failNext .endInValue
      | some '"' => return true
      | some '\x7d' => failNext .trailingComma
      | some _ => failNext .keyNotString
    else failNext .expectedObjectComma

/-- A key whose opening quote comes next. -/
def key : Reader String := do
  skip
  string

def colon : Reader Unit := do
  match ← next with
  | none => failNext .endInObject
  | some ':' => skip
  | some _ => failNext .expectedColon

/-- The items of a list up to its closing bracket, which is left. -/
def items (item : Reader α) : Nat → Bool → Reader (List α)
  | 0, _ => fail .endInList
  | fuel + 1, first => do
    if ← moreItems first then
      let a ← item
      return a :: (← items item fuel false)
    else return []

/-- The fields of an object up to its closing brace, which is left. -/
def fields (item : Reader α) : Nat → Bool → Reader (List (String × α))
  | 0, _ => fail .endInObject
  | fuel + 1, first => do
    if ← moreFields first then
      let k ← key
      colon
      let a ← item
      return (k, a) :: (← fields item fuel false)
    else return []

/-- A list whose opening bracket comes next. -/
def listOf (item : Reader α) : Reader (List α) := do
  skip
  let as ← items item ((← length) + 1) true
  skip
  return as

/-- An object whose opening brace comes next. -/
def objectOf (item : Reader α) : Reader (List (String × α)) := do
  skip
  let as ← fields item ((← length) + 1) true
  skip
  return as

/-- A number whose first character comes next. -/
def number (first : Char) : Reader Number := do
  if first = '-' then do skip; unsignedNumber true else unsignedNumber false

/-- A value, its objects with their fields in the order of the text, repeated ones included. -/
def verbatim (depth : Nat) : Reader Json := do
    match ← next with
    | none => failNext .endInValue
    | some 'n' => do skip; word "ull".toList; return .null
    | some 't' => do skip; word "rue".toList; return .bool true
    | some 'f' => do skip; word "alse".toList; return .bool false
    | some '"' => do skip; return .string (← string)
    | some '[' =>
      match depth with
      | 0 => failNext .tooDeep
      | d + 1 => return .array (← listOf (verbatim d))
    | some '\x7b' =>
      match depth with
      | 0 => failNext .tooDeep
      | d + 1 => return .object (← objectOf (verbatim d))
    | some c =>
      if c = '-' ∨ Text.isAsciiDigit c then return .number (← number c)
      else failNext .expectedValue

/-- Nothing but white space may be left. -/
def finish : Reader Unit := do
  match ← next with
  | none => pure ()
  | some _ => failNext .trailingCharacters

/-- What the reader finds in the whole text. -/
def run (r : Reader α) (cs : List Char) : Except Fault α := do
  let (a, s) ← StateT.run r (Source.ofChars cs)
  let _ ← StateT.run finish s
  return a

end Reader

def parse (s : String) : Except Fault Json :=
  (Reader.run (Reader.verbatim Reader.maxDepth) s.toList).map canonical

end DbConsole.Json

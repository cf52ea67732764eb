import DbConsole.Json.Scan

/-!
Passing over a value that nobody asked for. It may be nested to any depth and its strings may
hold lone surrogates, and it is refused in fewer ways than a value that is wanted.
-/
set_option autoImplicit false

namespace DbConsole.Json.Reader

def skipEscape : Reader Unit := do
  match ← peek with
  | none => fail .endInString
  | some c =>
    if c = '"' ∨ c = '\\' ∨ c = '/' ∨ c = 'b' ∨ c = 'f' ∨ c = 'n' ∨ c = 'r' ∨ c = 't' then skip
    else if c = 'u' then do
      skip
      let _ ← fourHex
    else failNext .invalidEscape

def skipString : Nat → Reader Unit
  | 0 => fail .endInString
  | fuel + 1 => do
    match ← peek with
    | none => fail .endInString
    | some c =>
      if c = '"' then skip
      else if c = '\\' then do
        skip
        skipEscape
        skipString fuel
      else if c.toNat < 32 then fail .controlCharacter
      else do
        skip
        skipString fuel

def skipExponent : Reader Unit := do
  skip
  if (← peek) == some '-' || (← peek) == some '+' then skip
  match ← peek with
  | none => fail .invalidNumber
  | some c =>
    if Text.isAsciiDigit c then do
      let _ ← takeWhile Text.isAsciiDigit
    else failNext .invalidNumber

def skipNumber : Reader Unit := do
  match ← peek with
  | none => fail .invalidNumber
  | some first =>
    if !Text.isAsciiDigit first then failNext .invalidNumber
    else
      skip
      if first = '0' && ((← peek).map Text.isAsciiDigit).getD false then failNext .invalidNumber
      else
        if first != '0' then
          let _ ← takeWhile Text.isAsciiDigit
        match ← peek with
        | some '.' =>
          skip
          let places ← takeWhile Text.isAsciiDigit
          if places.isEmpty then failNext .invalidNumber
          else
            match ← peek with
            | some 'e' | some 'E' => skipExponent
            | _ => pure ()
        | some 'e' | some 'E' => skipExponent
        | _ => pure ()

inductive Bracket where
  | list
  | object
  deriving DecidableEq

/-- What the walk over a value that is passed over awaits. -/
inductive Awaited where
  | value
  /-- A closing bracket, or, if some member has been passed, a comma, or else a first member. -/
  | closing (passed : Bool)
  deriving DecidableEq

def memberKey : Bracket → Reader Unit
  | .list => pure ()
  | .object => do
    match ← next with
    | none => failNext .endInObject
    | some '"' => do
      skip
      skipString ((← length) + 1)
      match ← next with
      | some ':' => skip
      | some _ => failNext .expectedColon
      | none => failNext .endInObject
    | some _ => failNext .keyNotString

/-- Passes over one value; the brackets are those that it has opened so far. -/
def skipLoop : Nat → Awaited → List Bracket → Reader Unit
  | 0, _, _ => fail .endInValue
  | fuel + 1, .value, open_ => do
    let scalar : Reader Unit :=
      match open_ with
      | [] => pure ()
      | _ => skipLoop fuel (.closing true) open_
    match ← next with
    | none => failNext .endInValue
    | some 'n' => do skip; word "ull".toList; scalar
    | some 't' => do skip; word "rue".toList; scalar
    | some 'f' => do skip; word "alse".toList; scalar
    | some '-' => do skip; skipNumber; scalar
    | some '"' => do skip; skipString ((← length) + 1); scalar
    | some '[' => do skip; skipLoop fuel (.closing false) (.list :: open_)
    | some '\x7b' => do skip; skipLoop fuel (.closing false) (.object :: open_)
    | some c =>
      if Text.isAsciiDigit c then do skipNumber; scalar
      else failNext .expectedValue
  | _ + 1, .closing _, [] => pure ()
  | fuel + 1, .closing passed, bracket :: outer => do
    match ← next with
    | none => failNext (if bracket = .list then .endInList else .endInObject)
    | some c =>
      if (bracket = .list ∧ c = ']') ∨ (bracket = .object ∧ c = '\x7d') then do
        skip
        match outer with
        | [] => pure ()
        | _ => skipLoop fuel (.closing true) outer
      else if passed then
        if c = ',' then do
          skip
          memberKey bracket
          skipLoop fuel .value (bracket :: outer)
        else failNext (if bracket = .list then .expectedListComma else .expectedObjectComma)
      else do
        memberKey bracket
        skipLoop fuel .value (bracket :: outer)

def skipValue : Reader Unit := do
  skipLoop (2 * (← length) + 2) .value []

end DbConsole.Json.Reader

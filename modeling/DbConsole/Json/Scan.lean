import DbConsole.Json.Fault
import DbConsole.Number.Notation

/-!
A text that is being read, with the place reached, and readers over it: strings and numbers of a
document among them.
-/
set_option autoImplicit false

namespace DbConsole.Json

structure Source where
  rest : List Char
  place : Place

namespace Source

def ofChars (cs : List Char) : Source :=
  ⟨cs, ⟨1, 0⟩⟩

end Source

/-- The place after a character. -/
def Place.after (p : Place) (c : Char) : Place :=
  if c = '\n' then ⟨p.line + 1, 0⟩ else ⟨p.line, p.column + c.utf8Size⟩

def Place.afterAll (p : Place) (cs : List Char) : Place :=
  cs.foldl Place.after p

/-- The place so many bytes further on. -/
def Place.afterBytes (p : Place) : Nat → List Char → Place
  | 0, _ => p
  | _, [] => p
  | n, c :: cs =>
    if c.utf8Size ≤ n then (p.after c).afterBytes (n - c.utf8Size) cs
    else ⟨p.line, p.column + n⟩

def byteCount (cs : List Char) : Nat :=
  cs.foldl (fun n c => n + c.utf8Size) 0

/-- Reads something from the front of a source. -/
abbrev Reader (α : Type) := StateT Source (Except Fault) α

namespace Reader

variable {α : Type}

def failAt (place : Place) (cause : Cause) : Reader α :=
  fun _ => .error ⟨cause, some place⟩

/-- Fails where the source stands. -/
def fail (cause : Cause) : Reader α :=
  fun s => .error ⟨cause, some s.place⟩

/-- Fails after the first byte of what comes next. -/
def failNext (cause : Cause) : Reader α :=
  fun s => .error ⟨cause, some (s.place.afterBytes 1 s.rest)⟩

def peek : Reader (Option Char) :=
  fun s => .ok (s.rest.head?, s)

def skip : Reader Unit :=
  fun s => match s.rest with
    | [] => .ok ((), s)
    | c :: rest => .ok ((), ⟨rest, s.place.after c⟩)

/-- Takes the characters up to the first that fails the test. -/
def takeWhile (p : Char → Bool) : Reader (List Char) :=
  fun s =>
    let taken := s.rest.takeWhile p
    .ok (taken, ⟨s.rest.dropWhile p, s.place.afterAll taken⟩)

def length : Reader Nat :=
  fun s => .ok (s.rest.length, s)

def isSpace (c : Char) : Bool :=
  c == ' ' || c == '\n' || c == '\t' || c == '\r'

/-- What comes next after white space. -/
def next : Reader (Option Char) := do
  let _ ← takeWhile isSpace
  peek

/-- Reads the rest of a literal word of which the first letter has been read. -/
def word : List Char → Reader Unit
  | [] => pure ()
  | expected :: more => do
    match ← peek with
    | none => fail .endInValue
    | some c => if c = expected then do skip; word more else failNext .expectedIdent

/-! ### Strings -/

def hexValue? (c : Char) : Option Nat :=
  if '0' ≤ c ∧ c ≤ '9' then some (c.toNat - 48)
  else if 'a' ≤ c ∧ c ≤ 'f' then some (c.toNat - 87)
  else if 'A' ≤ c ∧ c ≤ 'F' then some (c.toNat - 55)
  else none

/-- Four hexadecimal digits. Any four bytes are read, and refused only then. -/
def fourHex : Reader Nat := fun s =>
  match s.rest with
  | a :: b :: c :: d :: rest =>
    match hexValue? a, hexValue? b, hexValue? c, hexValue? d with
    | some h, some i, some j, some k =>
      .ok (h * 4096 + i * 256 + j * 16 + k, ⟨rest, s.place.afterAll [a, b, c, d]⟩)
    | _, _, _, _ => .error ⟨.invalidEscape, some (s.place.afterBytes 4 s.rest)⟩
  | rest =>
    if byteCount rest < 4 then .error ⟨.endInString, some (s.place.afterAll rest)⟩
    else .error ⟨.invalidEscape, some (s.place.afterBytes 4 rest)⟩

/-- A character of the second half of a pair, which must come next. -/
def pairMark (mark : Char) : Reader Unit := do
  match ← peek with
  | none => fail .endInString
  | some c => if c = mark then skip else failNext .unpairedSurrogate

/-- What follows a backslash and a `u`. -/
def unicodeEscape : Reader Char := do
  let high ← fourHex
  if 0xDC00 ≤ high ∧ high ≤ 0xDFFF then fail .loneSurrogate
  else if high < 0xD800 ∨ 0xDBFF < high then return Char.ofNat high
  else
    pairMark '\\'
    pairMark 'u'
    let low ← fourHex
    if low < 0xDC00 ∨ 0xDFFF < low then fail .loneSurrogate
    else return Char.ofNat ((high - 0xD800) * 1024 + (low - 0xDC00) + 0x10000)

/-- What follows a backslash. -/
def escape : Reader Char := do
  match ← peek with
  | none => fail .endInString
  | some c =>
    if c = '"' ∨ c = '\\' ∨ c = '/' then do skip; return c
    else if c = 'b' then do skip; return Char.ofNat 8
    else if c = 'f' then do skip; return Char.ofNat 12
    else if c = 'n' then do skip; return '\n'
    else if c = 'r' then do skip; return '\r'
    else if c = 't' then do skip; return '\t'
    else if c = 'u' then do skip; unicodeEscape
    else failNext .invalidEscape

/-- The characters up to the closing quote, after those already read, which stand in reverse. -/
def stringBody : Nat → List Char → Reader (List Char)
  | 0, _ => fail .endInString
  | fuel + 1, acc => do
    match ← peek with
    | none => fail .endInString
    | some c =>
      if c = '"' then do skip; return acc.reverse
      else if c = '\\' then do
        skip
        let e ← escape
        stringBody fuel (e :: acc)
      else if c.toNat < 32 then failNext .controlCharacter
      else do skip; stringBody fuel (c :: acc)

/-- A string of which the opening quote has been read. -/
def string : Reader String := do
  let n ← length
  return String.ofList (← stringBody (n + 1) [])

/-- Reads on in a whole number that has begun, as far as it stays below `2 ^ 64`; the digits that
did not fit come back. -/
def accumulate : Nat → List Char → Nat × List Char
  | n, [] => (n, [])
  | n, d :: rest =>
    let more := 10 * n + Notation.digitValue d
    if more < Nat.pow 2 64 then accumulate more rest else (n, d :: rest)

/-- The quotient by `10 ^ 308`, taken so many times; zero stays as it is. -/
def divideLarge? : Nat → Binary64 → Option Binary64
  | 0, x => some x
  | k + 1, x =>
    if x.isZero then some x
    else ((Binary64.tenTo? 308).bind x.div?).bind (divideLarge? k)

/-- `x * 10 ^ exponent`, by one product, or by quotients of which none is by more than
`10 ^ 308`. -/
def scale? (x : Binary64) (exponent : Int) : Option Binary64 :=
  match exponent with
  | .ofNat e =>
    if e ≤ 308 then (Binary64.tenTo? e).bind x.mul?
    else if x.isZero then some x
    else none
  | .negSucc e =>
    (divideLarge? (e / 308) x).bind fun y => (Binary64.tenTo? (e % 308 + 1)).bind y.div?

/-- The number with the given digits and decimal exponent. -/
def realFrom (negative : Bool) (digits : Nat) (exponent : Int) : Reader Number := do
  match (Binary64.ofNat? digits).bind fun x => scale? x exponent with
  | some x => return .real (if negative then x.neg else x)
  | none => fail .numberOutOfRange

/-- What follows the `e` of a number. -/
def exponentPart (negative : Bool) (digits : Nat) (exponent : Int) : Reader Number := do
  skip
  let minus := (← peek) == some '-'
  if (← peek) == some '-' || (← peek) == some '+' then skip
  match ← peek with
  | none => fail .endInValue
  | some c =>
    if !Text.isAsciiDigit c then failNext .invalidNumber
    else
      let here ← get
      let ds ← takeWhile Text.isAsciiDigit
      -- An exponent beyond 32 bits ends the number where it leaves them.
      let small := (ds.foldl (fun n d => min (10 * n + Notation.digitValue d) (Nat.pow 2 31)) 0)
      if small < Nat.pow 2 31 then
        realFrom negative digits (if minus then exponent - small else exponent + small)
      else if digits ≠ 0 && !minus then
        failAt (here.place.afterAll (ds.take (exponentReach 0 0 ds))) .numberOutOfRange
      else return .real (Binary64.zero negative)
where
  exponentReach : Nat → Nat → List Char → Nat
    | read, _, [] => read
    | read, n, d :: rest =>
      let more := 10 * n + Notation.digitValue d
      if more < Nat.pow 2 31 then exponentReach (read + 1) more rest else read + 1

def afterDigits (negative : Bool) (digits : Nat) (exponent : Int) : Reader Number := do
  match ← peek with
  | some 'e' | some 'E' => exponentPart negative digits exponent
  | _ => realFrom negative digits exponent

/-- What follows the point of a number; places beyond 64 bits are read and dropped. -/
def decimalPart (negative : Bool) (digits : Nat) (exponent : Int) : Reader Number := do
  skip
  let places ← takeWhile Text.isAsciiDigit
  if places.isEmpty then
    match ← peek with
    | none => failNext .endInValue
    | some _ => failNext .invalidNumber
  else
    let (more, dropped) := accumulate digits places
    afterDigits negative more (exponent - ((places.length - dropped.length : Nat) : Int))

/-- A number of which the sign has been read. A number written without point and exponent is whole
if 64 bits hold it. -/
def unsignedNumber (negative : Bool) : Reader Number := do
  match ← peek with
  | none => fail .endInValue
  | some first =>
    if !Text.isAsciiDigit first then failNext .invalidNumber
    else
      skip
      if first = '0' && ((← peek).map Text.isAsciiDigit).getD false then failNext .invalidNumber
      else
        let more ← if first = '0' then pure [] else takeWhile Text.isAsciiDigit
        let (digits, dropped) := accumulate (Notation.digitValue first) more
        match ← peek with
        | some '.' => decimalPart negative digits dropped.length
        | some 'e' | some 'E' => exponentPart negative digits dropped.length
        | _ =>
          if !dropped.isEmpty then realFrom negative digits dropped.length
          else if !negative then return .whole digits
          else if digits = 0 then return .real (Binary64.zero true)
          else if digits ≤ Nat.pow 2 63 then return .whole (-(digits : Int))
          else realFrom true digits 0

end Reader

end DbConsole.Json

/-!
The tokens of SQL text.
-/
set_option autoImplicit false

namespace DbConsole.Sql

/-- The ways to write a string. -/
inductive StringKind where
  | single
  | double
  | national
  | escaped
  | unicode
  | hex
  | dollar
  | bytes
  | doubleBytes
  | raw
  | doubleRaw
  deriving DecidableEq, Repr

inductive Token where
  /-- A name or a keyword: its text, the keyword that it may be (in capitals; nothing for a quoted
  name), and its opening quote. -/
  | word (text key : String) (quote : Option Char)
  /-- A number, and whether it is marked as long. -/
  | number (text : String) (long : Bool)
  | string (kind : StringKind) (text : String)
  | placeholder (text : String)
  | symbol (text : String)
  /-- An operator that is none of the known ones. -/
  | operator (text : String)
  /-- A character that begins no token. -/
  | stray (c : Char)
  deriving DecidableEq, Repr

/-- A token, and whether white space or a comment stands before it. -/
structure Lexeme where
  token : Token
  spaced : Bool
  deriving DecidableEq, Repr

/-- Letters beyond ASCII whose capital form is made of ASCII letters. -/
def specialCapitals (c : Char) : Option (List Char) :=
  match c.toNat with
  | 0x131 => some ['I']
  | 0x17F => some ['S']
  | 0xDF => some ['S', 'S']
  | 0xFB00 => some ['F', 'F']
  | 0xFB01 => some ['F', 'I']
  | 0xFB02 => some ['F', 'L']
  | 0xFB03 => some ['F', 'F', 'I']
  | 0xFB04 => some ['F', 'F', 'L']
  | 0xFB05 => some ['S', 'T']
  | 0xFB06 => some ['S', 'T']
  | _ => none

def capital (c : Char) : List Char :=
  if 'a' ≤ c ∧ c ≤ 'z' then [Char.ofNat (c.toNat - 32)]
  else (specialCapitals c).getD [c]

/-- The word in capitals, as far as it can be a keyword. -/
def capitals (s : String) : String :=
  String.ofList (s.toList.flatMap capital)

namespace Token

def ofWord (text : String) : Token :=
  .word text (capitals text) none

def quotedWord (text : String) (quote : Char) : Token :=
  .word text "" (some quote)

def isWord : Token → Bool
  | .word _ _ _ => true
  | _ => false

/-- The keyword that the token may be; nothing if it is none. -/
def key : Token → String
  | .word _ k _ => k
  | _ => ""

end Token

end DbConsole.Sql

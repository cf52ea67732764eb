import DbConsole.Json.Basic

/-!
Documents as text: compact, and indented by two spaces a level. Quotes, backslashes and control
characters are escaped, everything else stands for itself.
-/
set_option autoImplicit false

namespace DbConsole.Json

def hexDigit (n : Nat) : Char :=
  if n < 10 then Char.ofNat (48 + n) else Char.ofNat (87 + n)

def escapeChar (c : Char) : List Char :=
  if c = '"' then ['\\', '"']
  else if c = '\\' then ['\\', '\\']
  else if c.toNat < 32 then
    if c = '\n' then ['\\', 'n']
    else if c = '\r' then ['\\', 'r']
    else if c = '\t' then ['\\', 't']
    else if c.toNat = 8 then ['\\', 'b']
    else if c.toNat = 12 then ['\\', 'f']
    else ['\\', 'u', '0', '0', hexDigit (c.toNat / 16), hexDigit (c.toNat % 16)]
  else [c]

def quotedChars (cs : List Char) : List Char :=
  '"' :: (cs.flatMap escapeChar ++ ['"'])

def quoted (s : String) : String :=
  String.ofList (quotedChars s.toList)

mutual
/-- The characters of the compact text, before `rest`. -/
def compactChars : Json → List Char → List Char
  | .null, rest => "null".toList ++ rest
  | .bool true, rest => "true".toList ++ rest
  | .bool false, rest => "false".toList ++ rest
  | .number n, rest => n.text.toList ++ rest
  | .string s, rest => quotedChars s.toList ++ rest
  | .array [], rest => '[' :: ']' :: rest
  | .array (j :: items), rest => '[' :: compactChars j (compactItems items rest)
  | .object [], rest => '\x7b' :: '\x7d' :: rest
  | .object ((k, j) :: fields), rest =>
    '\x7b' :: (quotedChars k.toList ++ ':' :: compactChars j (compactFields fields rest))

def compactItems : List Json → List Char → List Char
  | [], rest => ']' :: rest
  | j :: items, rest => ',' :: compactChars j (compactItems items rest)

def compactFields : List (String × Json) → List Char → List Char
  | [], rest => '\x7d' :: rest
  | (k, j) :: fields, rest =>
    ',' :: (quotedChars k.toList ++ ':' :: compactChars j (compactFields fields rest))
end

def compact (j : Json) : String :=
  String.ofList (compactChars j [])

def newline (depth : Nat) (rest : List Char) : List Char :=
  '\n' :: (List.replicate (2 * depth) ' ' ++ rest)

mutual
def prettyChars (depth : Nat) : Json → List Char → List Char
  | .array (j :: items), rest =>
    '[' :: newline (depth + 1) (prettyChars (depth + 1) j (prettyItems depth items rest))
  | .object ((k, j) :: fields), rest =>
    '\x7b' :: newline (depth + 1) (quotedChars k.toList ++ ':' :: ' ' ::
      prettyChars (depth + 1) j (prettyFields depth fields rest))
  | .null, rest => "null".toList ++ rest
  | .bool true, rest => "true".toList ++ rest
  | .bool false, rest => "false".toList ++ rest
  | .number n, rest => n.text.toList ++ rest
  | .string s, rest => quotedChars s.toList ++ rest
  | .array [], rest => '[' :: ']' :: rest
  | .object [], rest => '\x7b' :: '\x7d' :: rest

def prettyItems (depth : Nat) : List Json → List Char → List Char
  | [], rest => newline depth (']' :: rest)
  | j :: items, rest =>
    ',' :: newline (depth + 1) (prettyChars (depth + 1) j (prettyItems depth items rest))

def prettyFields (depth : Nat) : List (String × Json) → List Char → List Char
  | [], rest => newline depth ('\x7d' :: rest)
  | (k, j) :: fields, rest =>
    ',' :: newline (depth + 1) (quotedChars k.toList ++ ':' :: ' ' ::
      prettyChars (depth + 1) j (prettyFields depth fields rest))
end

/-- The text with every item and field on a line of its own. -/
def pretty (j : Json) : String :=
  String.ofList (prettyChars 0 j [])

end DbConsole.Json

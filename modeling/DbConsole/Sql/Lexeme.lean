import DbConsole.Sql.Dialect
import DbConsole.Sql.Token
import DbConsole.Text.Blank

/-!
The tokens of a text, in the order in which they stand. White space and comments part tokens and
leave nothing else behind; a text with an unclosed string, name or comment has no tokens.
-/
set_option autoImplicit false

namespace DbConsole.Sql

/-- What stands at the front of a text. -/
inductive Piece where
  | token (t : Token)
  | space

namespace Piece

def word (cs : List Char) : Piece :=
  .token (.ofWord (String.ofList cs))

def symbol (s : String) : Piece :=
  .token (.symbol s)

/-- A word that begins with the characters given and goes on as far as it can. -/
def wordFrom (d : Dialect) (start rest : List Char) : Piece × List Char :=
  (word (start ++ rest.takeWhile d.continuesWord), rest.dropWhile d.continuesWord)

/-! ### Strings -/

/-- The value of a character after a backslash. -/
def backslashed (c : Char) : Char :=
  match c with
  | '0' => Char.ofNat 0
  | 'a' => Char.ofNat 7
  | 'b' => Char.ofNat 8
  | 'f' => Char.ofNat 12
  | 'n' => '\n'
  | 'r' => '\r'
  | 't' => '\t'
  | 'Z' => Char.ofNat 26
  | c => c

/-- What stands before the closing quote, which twice over stands for itself. With `escapes` a
backslash takes its meaning from what follows it; with `wild` one before a wildcard stays. -/
def quotedBody (quote : Char) (escapes wild : Bool) :
    List Char → List Char → Option (List Char × List Char)
  | _, [] => none
  | acc, c :: d :: rest =>
    if c == quote then
      if d == quote then quotedBody quote escapes wild (c :: acc) rest
      else some (acc.reverse, d :: rest)
    else if escapes && c == '\\' then
      if wild && (d == '%' || d == '_') then quotedBody quote escapes wild (d :: c :: acc) rest
      else quotedBody quote escapes wild (backslashed d :: acc) rest
    else quotedBody quote escapes wild (c :: acc) (d :: rest)
  | acc, [c] => if c == quote then some (acc.reverse, []) else none

def hexDigit? (c : Char) : Option Nat :=
  if '0' ≤ c ∧ c ≤ '9' then some (c.toNat - 48)
  else if 'a' ≤ c ∧ c ≤ 'f' then some (c.toNat - 87)
  else if 'A' ≤ c ∧ c ≤ 'F' then some (c.toNat - 55)
  else none

/-- The character with a number, if there is one. -/
def scalar? (n : Nat) : Option Char :=
  if n.isValidChar then some (Char.ofNat n) else none

/-- The character whose number stands in exactly so many hexadecimal digits. -/
def hexScalar? (digits : Nat) (cs : List Char) : Option (Char × List Char) := do
  let front := cs.take digits
  if front.length < digits then none
  let n ← front.foldlM (fun n c => (hexDigit? c).map (n * 16 + ·)) 0
  let c ← scalar? n
  some (c, cs.drop digits)

/-- The byte with the digits at the front, at most so many, as a character; only ASCII has one. -/
def byteScalar? (base digits : Nat) (cs : List Char) : Option (Char × List Char) :=
  let front := (cs.take digits).takeWhile fun c => (hexDigit? c).any (· < base)
  let n := front.foldl (fun n c => n * base + (hexDigit? c).getD 0) 0 % 256
  if n ≤ 127 then some (Char.ofNat n, cs.drop front.length) else none

/-- What a backslash and the characters after it stand for. -/
def escape? : List Char → Option (Char × List Char)
  | [] => none
  | c :: rest =>
    match c with
    | 'b' => some (Char.ofNat 8, rest)
    | 'f' => some (Char.ofNat 12, rest)
    | 'n' => some ('\n', rest)
    | 'r' => some ('\r', rest)
    | 't' => some ('\t', rest)
    | 'u' => hexScalar? 4 rest
    | 'U' => hexScalar? 8 rest
    | 'x' =>
      if rest.head?.any fun h => (hexDigit? h).isSome then byteScalar? 16 2 rest
      else some ('x', rest)
    | c => if '0' ≤ c ∧ c ≤ '7' then byteScalar? 8 3 (c :: rest) else some (c, rest)

/-- The body of a string whose backslashes are escapes; none of them stands for the character
zero. -/
def escapedBody : Nat → List Char → List Char → Option (List Char × List Char)
  | 0, _, _ => none
  | _, _, [] => none
  | fuel + 1, acc, c :: rest =>
    if c == '\'' then
      match rest with
      | '\'' :: rest => escapedBody fuel (c :: acc) rest
      | _ => some (acc.reverse, rest)
    else if c == '\\' then do
      let (e, rest) ← escape? rest
      if e.toNat = 0 then none else escapedBody fuel (e :: acc) rest
    else escapedBody fuel (c :: acc) rest

/-- The body of a string in which backslashes bring in characters by their numbers. -/
def unicodeBody : Nat → List Char → List Char → Option (List Char × List Char)
  | 0, _, _ => none
  | _, _, [] => none
  | fuel + 1, acc, c :: rest =>
    if c == '\'' then
      match rest with
      | '\'' :: rest => unicodeBody fuel (c :: acc) rest
      | _ => some (acc.reverse, rest)
    else if c == '\\' then
      match rest with
      | '\\' :: rest => unicodeBody fuel (c :: acc) rest
      | '+' :: rest => do
        let (e, rest) ← hexScalar? 6 rest
        unicodeBody fuel (e :: acc) rest
      | rest => do
        let (e, rest) ← hexScalar? 4 rest
        unicodeBody fuel (e :: acc) rest
    else unicodeBody fuel (c :: acc) rest

def ofBody (kind : StringKind) (body : Option (List Char × List Char)) :
    Option (Piece × List Char) :=
  body.map fun (text, rest) => (.token (.string kind (String.ofList text)), rest)

/-- A string that opens with the quote given, after which the rest stands. -/
def stringFrom (d : Dialect) (kind : StringKind) (quote : Char) (escapes : Bool)
    (rest : List Char) : Option (Piece × List Char) :=
  ofBody kind (quotedBody quote escapes d.keepsWildcardEscapes [] rest)

def nameFrom (opening : Char) (rest : List Char) : Option (Piece × List Char) :=
  let closing := if opening == '[' then ']' else opening
  (quotedBody closing false false [] rest).map fun (text, rest) =>
    (.token (.quotedWord (String.ofList text) opening), rest)

/-- The text before a mark, and what follows the mark. -/
def before? (mark : List Char) : List Char → List Char → Option (List Char × List Char)
  | acc, [] => if mark.isEmpty then some (acc.reverse, []) else none
  | acc, c :: rest =>
    if mark.isPrefixOf (c :: rest) then some (acc.reverse, (c :: rest).drop mark.length)
    else before? mark (c :: acc) rest

/-- What begins with a dollar sign: a string between two tags, or a placeholder. -/
def dollarFrom (d : Dialect) (rest : List Char) : Option (Piece × List Char) :=
  let inTag (c : Char) : Bool :=
    Text.isLetter c || Text.isNumeral c || c == '_' || (d.dollarPlaceholders && c == '$')
  let tag := rest.takeWhile inTag
  match d.dollarPlaceholders, rest.dropWhile inTag with
  | false, '$' :: rest => ofBody .dollar (before? ('$' :: tag ++ ['$']) [] rest)
  | _, rest => some (.token (.placeholder (String.ofList ('$' :: tag))), rest)

/-! ### Numbers -/

/-- The digits at the front, with the separators that the dialect allows among them. -/
def digits (d : Dialect) (isDigit : Char → Bool) : List Char → List Char × List Char
  | [] => ([], [])
  | c :: rest =>
    if isDigit c ||
        (d.underscoresInNumbers && c == '_' && rest.head?.any fun n => (hexDigit? n).isSome) then
      let (front, rest) := digits d isDigit rest
      (c :: front, rest)
    else ([], c :: rest)

/-- The exponent at the front, if there is one. -/
def exponent (cs : List Char) : List Char × List Char :=
  match cs with
  | e :: rest =>
    if e == 'e' || e == 'E' then
      let (sign, rest) := match rest with
        | s :: more => if s == '+' || s == '-' then ([s], more) else ([], rest)
        | [] => ([], rest)
      match rest.takeWhile Text.isAsciiDigit with
      | [] => ([], cs)
      | front => (e :: sign ++ front, rest.dropWhile Text.isAsciiDigit)
    else ([], cs)
  | [] => ([], [])

def longMark (text : List Char) (rest : List Char) : Piece × List Char :=
  match rest with
  | 'L' :: rest => (.token (.number (String.ofList text) true), rest)
  | rest => (.token (.number (String.ofList text) false), rest)

/-- What begins with a digit or a point, after the token given if nothing parts them. -/
def numberFrom (d : Dialect) (prev : Option Token) (cs : List Char) :
    Option (Piece × List Char) :=
  let afterWord := prev.any Token.isWord
  let (whole, rest) := digits d Text.isAsciiDigit cs
  match whole, rest with
  | [], '.' :: '_' :: rest => if afterWord then some (symbol ".", '_' :: rest) else none
  | ['0'], 'x' :: rest =>
    let (front, rest) := digits d (fun c => (hexDigit? c).isSome) rest
    some (.token (.string .hex (String.ofList front)), rest)
  | _, _ =>
    let (point, rest) := match rest with
      | '.' :: rest => (['.'], rest)
      | rest => ([], rest)
    if whole.isEmpty && d.digitsStartWords && afterWord then some (symbol ".", rest)
    else
      let (fraction, rest) := digits d Text.isAsciiDigit rest
      let text := whole ++ point ++ fraction
      if text == ['.'] then some (symbol ".", rest)
      else
        let (power, rest) := exponent rest
        if d.digitsStartWords then
          if power.isEmpty then
            match rest.takeWhile d.continuesWord with
            | [] => some (longMark text rest)
            | more => some (word (text ++ more), rest.dropWhile d.continuesWord)
          else if prev == some (.symbol ".") then some (word (text ++ power), rest)
          else some (longMark (text ++ power) rest)
        else some (longMark (text ++ power) rest)

/-! ### Symbols -/

/-- Whether the characters of an operator may follow a symbol and make another one of it. -/
inductive Ending where
  | closed
  | open
  /-- They must follow. -/
  | stub
  /-- The character that follows is lost, whatever it is. -/
  | lossy
  deriving DecidableEq

def commonSymbols : List (String × Ending) :=
  [("!~~*", .closed),
    ("->>", .open), ("||/", .open), ("<=>", .open), ("!~*", .closed), ("!~~", .closed),
    ("~~*", .open), ("#>>", .open),
    ("->", .open), ("|/", .open), ("||", .open), ("=>", .closed), ("==", .closed),
    ("!=", .closed), ("!!", .closed), ("!~", .closed), ("<=", .open), ("<>", .open),
    ("<<", .open), ("<@", .open), (">=", .open), (">>", .open), ("::", .closed),
    (":=", .closed), ("&&", .open), ("^@", .closed), ("~*", .open), ("~~", .open),
    ("#-", .open), ("#>", .open), ("@>", .closed), ("@?", .closed), ("@@", .closed),
    ("(", .closed), (")", .closed), (",", .closed), (";", .closed), ("\\", .closed),
    ("[", .closed), ("]", .closed), ("\x7b", .closed), ("\x7d", .closed), ("+", .closed),
    ("*", .closed), ("/", .closed), ("=", .closed), ("!", .closed), (":", .closed),
    ("^", .closed), ("@", .closed), ("-", .open), ("%", .open), ("|", .open), ("<", .open),
    (">", .open), ("&", .open), ("~", .open), ("#", .open)]

def geometricSymbols : List (String × Ending) :=
  [("|&>", .open), ("|>>", .open), ("<<|", .open), ("<->", .open), ("&<|", .closed),
    ("@-@", .closed), ("?||", .closed), ("?-|", .closed),
    ("<|", .open), ("<^", .open), (">^", .open), ("&<", .open), ("&>", .lossy), ("~=", .open),
    ("##", .open),
    ("?|", .closed), ("?&", .closed), ("?-", .closed), ("?#", .closed),
    ("|&", .stub), ("|>", .stub), ("<-", .stub), ("@-", .stub)]

/-- The symbols of a dialect, a longer one before those it begins with. -/
def symbols (d : Dialect) : List (String × Ending) :=
  let known := (if d.geometric then geometricSymbols else []) ++
    (if d.isGeneric then [("//", .closed), ("|>", .open)] else []) ++ commonSymbols ++
    (if d.geometric then [("?", .lossy)] else [])
  [4, 3, 2, 1].flatMap fun n => known.filter fun (s, _) => s.length == n

def symbolFrom (d : Dialect) (cs : List Char) : Option (Piece × List Char) :=
  match (symbols d).find? fun (s, _) => s.toList.isPrefixOf cs with
  | none => none
  | some (s, ending) =>
    let rest := cs.drop s.length
    let more := rest.takeWhile d.extendsOperator
    let s := if s == "<|" then "<<|" else s
    if ending == .lossy then some (symbol s, rest.drop 1)
    else if ending == .closed || (more.isEmpty && ending == .open) then some (symbol s, rest)
    else if more.isEmpty then none
    else some (.token (.operator (s ++ String.ofList more)), rest.dropWhile d.extendsOperator)

/-! ### Comments -/

/-- What follows a comment that runs to the end of its line. -/
def afterLine (d : Dialect) : List Char → List Char
  | [] => []
  | c :: rest =>
    if c == '\n' || (d.isPostgres && c == '\r') then rest else afterLine d rest

/-- The text of a comment between marks, and what follows it. -/
def commentBody (nests : Bool) : Nat → List Char → List Char → Option (List Char × List Char)
  | _, _, [] => none
  | depth, acc, '*' :: '/' :: rest =>
    match depth with
    | 0 => some (acc.reverse, rest)
    | depth + 1 => commentBody nests depth ('/' :: '*' :: acc) rest
  | depth, acc, '/' :: '*' :: rest =>
    if nests then commentBody nests (depth + 1) ('*' :: '/' :: acc) rest
    else commentBody nests depth ('/' :: acc) ('*' :: rest)
  | depth, acc, c :: rest => commentBody nests depth (c :: acc) rest

def commentFrom (d : Dialect) (rest : List Char) : Option (Piece × List Char) :=
  match commentBody d.nestsComments 0 [] rest with
  | none => none
  | some (_, rest) => some (.space, rest)

/-! ### Everything else -/

/-- What begins with a letter that may introduce a string. -/
def letterFrom (d : Dialect) (c : Char) (rest : List Char) : Option (Piece × List Char) :=
  let lower := if 'A' ≤ c ∧ c ≤ 'Z' then Char.ofNat (c.toNat + 32) else c
  match lower, rest with
  | 'b', '\'' :: rest' =>
    if d.byteStrings then stringFrom d .bytes '\'' false rest'
    else some (wordFrom d [c] rest)
  | 'b', '"' :: rest' =>
    if d.byteStrings then stringFrom d .doubleBytes '"' false rest'
    else some (wordFrom d [c] rest)
  | 'r', '\'' :: rest' =>
    if d.rawStrings then stringFrom d .raw '\'' false rest' else some (wordFrom d [c] rest)
  | 'r', '"' :: rest' =>
    if d.rawStrings then stringFrom d .doubleRaw '"' false rest'
    else some (wordFrom d [c] rest)
  | 'n', '\'' :: rest' => stringFrom d .national '\'' d.escapesBackslash rest'
  | 'e', '\'' :: rest' =>
    if d.escapeStrings then ofBody .escaped (escapedBody rest.length [] rest')
    else some (wordFrom d [c] rest)
  | 'u', '&' :: '\'' :: rest' =>
    if d.unicodeStrings then ofBody .unicode (unicodeBody rest.length [] rest')
    else some (wordFrom d [c] rest)
  | 'x', '\'' :: rest' => stringFrom d .hex '\'' true rest'
  | _, _ => some (wordFrom d [c] rest)

/-- What begins with a number sign or an at sign: a name where the dialect has such names. -/
def signFrom (d : Dialect) (c : Char) (cs : List Char) : Option (Piece × List Char) :=
  if !d.startsWord c then symbolFrom d cs
  else
    match c, cs with
    | '#', '#' :: next :: rest =>
      if next == '-' || next == '>' || next == ' ' then symbolFrom d cs
      else some (wordFrom d ['#', next] rest)
    | '@', '@' :: '@' :: next :: rest =>
      if next == ' ' then some (symbol "@@", next :: rest)
      else some (wordFrom d ['@', '@', next] rest)
    | '@', '@' :: next :: rest =>
      if next == '@' || next == '>' || next == '?' then symbolFrom d cs
      else if next == ' ' || next == '\'' || next == '"' || next.toNat == 0x60 then
        some (symbol "@", next :: rest)
      else some (wordFrom d ['@', next] rest)
    | _, _ => symbolFrom d cs

/-- The first piece of a text, and what follows it. -/
def front (d : Dialect) (prev : Option Token) : List Char → Option (Piece × List Char)
  | [] => none
  | c :: rest =>
    if c == ' ' || c == '\t' || c == '\n' || c == '\r' then some (.space, rest)
    else if Text.isAsciiLetter c then letterFrom d c rest
    else if c == '\'' then stringFrom d .single c d.escapesBackslash rest
    else if d.opensName c then nameFrom c rest
    else if c == '"' then stringFrom d .double c d.escapesBackslash rest
    else if Text.isAsciiDigit c || c == '.' then numberFrom d prev (c :: rest)
    else if c == '-' && rest.head? == some '-' &&
        (!d.dashesNeedSpace || rest.tail.head? == some ' ') then
      some (.space, afterLine d rest)
    else if c == '/' && rest.head? == some '*' then commentFrom d rest.tail
    else if c == '#' && d.hashComments then some (.space, afterLine d rest)
    else if c == '#' || c == '@' then signFrom d c (c :: rest)
    else if c == '?' && !d.geometric then
      some (.token (.placeholder (String.ofList (c :: rest.takeWhile Text.isNumeral))),
        rest.dropWhile Text.isNumeral)
    else if (symbols d).any fun (s, _) => s.toList.head? == some c then symbolFrom d (c :: rest)
    else if d.startsWord c then some (wordFrom d [c] rest)
    else if c == '$' then dollarFrom d rest
    else if Text.isBlank c then some (.space, rest)
    else some (.token (.stray c), rest)

end Piece

namespace Lexeme

/-- The tokens of a text after those already read, which stand in reverse. `spaced` says whether
white space stands before the text. -/
def scan (d : Dialect) : Nat → Bool → List Lexeme → List Char → Option (List Lexeme)
  | _, _, acc, [] => some acc
  | 0, _, _, _ => none
  | fuel + 1, spaced, acc, cs =>
    let prev := if spaced then none else acc.head?.map Lexeme.token
    match Piece.front d prev cs with
    | none => none
    | some (.token t, rest) => scan d fuel false (⟨t, spaced⟩ :: acc) rest
    | some (.space, rest) => scan d fuel true acc rest

end Lexeme

/-- The tokens of a text, if it has them. -/
def lexemes? (d : Dialect) (text : String) : Option (List Lexeme) :=
  let cs := text.toList
  (Lexeme.scan d (cs.length + 1) false [] cs).map List.reverse

end DbConsole.Sql

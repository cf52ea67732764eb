import DbConsole.Url.Basic

/-!
The URL that a text is.
-/
set_option autoImplicit false

namespace DbConsole.Url

/-- The text without controls and blanks at its ends and without the characters that are skipped. -/
def cleaned (cs : List Char) : List Char :=
  let drop := fun (cs : List Char) => cs.dropWhile (·.toNat ≤ 32)
  (drop (drop cs).reverse).reverse.filter (!isSkipped ·)

def isSchemeChar (c : Char) : Bool :=
  c.isAlphanum || c == '+' || c == '-' || c == '.'

/-- The scheme in lower case and what follows its colon. -/
def takeScheme (cs : List Char) : Option (String × List Char) :=
  let name := cs.takeWhile isSchemeChar
  match cs.drop name.length with
  | ':' :: rest =>
    if (cs.head?.map Char.isAlpha).getD false then
      some (String.ofList (name.map Text.lowerAscii), rest)
    else none
  | _ => none

def isSlash (special : Bool) (c : Char) : Bool :=
  c == '/' || (special && c == '\\')

/-- Whether the character ends the part between the slashes and the path. -/
def endsAuthority (special : Bool) (c : Char) : Bool :=
  isSlash special c || c == '?' || c == '#'

/-- The text before the last sign and the text behind it. -/
def splitLast (sign : Char) (cs : List Char) : Option (List Char × List Char) :=
  let tail := (cs.reverse.takeWhile (· != sign)).reverse
  if tail.length = cs.length then none else some (cs.take (cs.length - tail.length - 1), tail)

def encoded (set : Char → Bool) (cs : List Char) : String :=
  String.ofList (Text.percentEncode set cs)

/-- Name and password, which is none where it is empty. -/
def readUser (cs : List Char) : String × Option String :=
  let name := cs.takeWhile (· != ':')
  let password := (cs.drop name.length).drop 1
  (encoded userSet name, if password.isEmpty then none else some (encoded userSet password))

/-- The host up to the colon of the port; a colon between brackets is the host's own. -/
def takeHost : Bool → List Char → List Char
  | _, [] => []
  | inside, c :: rest =>
    if c = ':' ∧ !inside then []
    else c :: takeHost (if c = '[' then true else if c = ']' then false else inside) rest

def readPort (scheme : String) (cs : List Char) : Except UrlFault (Option Nat) :=
  match cs with
  | [] => .ok none
  | cs =>
    if cs.all Char.isDigit then
      let n := cs.foldl (fun n c => 10 * n + (c.toNat - 48)) 0
      if 65535 < n then .error .badPort
      else .ok (if defaultPort? scheme = some n then none else some n)
    else .error .badPort

/-- Credentials, host and port, with nothing below them yet. -/
def readAuthority (scheme : String) (cs : List Char) : Except UrlFault Url := do
  let special := isSpecialScheme scheme
  let (user, rest) := (splitLast '@' cs).getD ([], cs)
  let (name, password) := readUser user
  let hostText := takeHost false rest
  let portText := rest.drop hostText.length
  if special ∧ hostText.isEmpty then throw .emptyHost
  let host ← if special then Host.ofKnown hostText else Host.ofUnknown hostText
  if hostText.isEmpty ∧ !portText.isEmpty then throw .emptyHost
  let port ← readPort scheme (portText.drop 1)
  if hostText.isEmpty ∧ (!name.isEmpty ∨ password.isSome) then throw .emptyHost
  return ⟨scheme, name, password, some host, port, .segments [], none, none⟩

def isPathEnd (c : Char) : Bool :=
  c == '?' || c == '#'

/-- The texts between slashes. -/
def pieces (special : Bool) (cs : List Char) : List (List Char) :=
  Host.splitOn '/' (cs.map fun c => if isSlash special c then '/' else c)

/-- A drive letter that opens the path of a file ends its segment. -/
def afterDrive (file : Bool) (ps : List (List Char)) : List (List Char) :=
  match ps with
  | (c :: ':' :: d :: rest) :: others =>
    if file && c.isAlpha then [c, ':'] :: (d :: rest) :: others else ps
  | _ => ps

/-- The segments of a path, given without its opening slash. -/
def readPath (special file : Bool) (cs : List Char) : List String :=
  let ps := (afterDrive file (pieces special cs)).map (Text.percentEncode pathSet)
  trimmed file (pathOfPieces file [] ps)

/-- The query and the fragment behind the path. -/
def readTail (special : Bool) (cs : List Char) : Option String × Option String :=
  let before := cs.takeWhile (· != '#')
  let fragment :=
    match cs.drop before.length with
    | [] => none
    | _ :: rest => some (encoded fragmentSet rest)
  match before with
  | [] => (none, fragment)
  | _ :: query => (some (encoded (querySet special) query), fragment)

/-- Puts the path, the query and the fragment under what is read. -/
def withRest (u : Url) (cs : List Char) (path : List Char → UrlPath) : Url :=
  let text := cs.takeWhile (!isPathEnd ·)
  let (query, fragment) := readTail (isSpecialScheme u.scheme) (cs.drop text.length)
  { u with path := path text, query := query, fragment := fragment }

def dropSlash (special : Bool) (cs : List Char) : List Char :=
  match cs with
  | c :: rest => if isSlash special c then rest else cs
  | [] => []

/-- A URL behind two slashes; only a known scheme has a path where none is written. -/
def readBelow (scheme : String) (cs : List Char) : Except UrlFault Url := do
  let special := isSpecialScheme scheme
  let authority := cs.takeWhile (!endsAuthority special ·)
  let rest := cs.drop authority.length
  if authority = ['@'] ∧ !rest.isEmpty then throw .emptyHost
  let u ← readAuthority scheme authority
  return u.withRest rest fun text =>
    if text.isEmpty && !special then .segments []
    else .segments (readPath special false (dropSlash special text))

/-- The host of a file, which is left out where it is the machine itself. -/
def readFileHost (cs : List Char) : Except UrlFault Host :=
  if cs.isEmpty then .ok (.named "")
  else
    (Host.ofKnown cs).map fun h => if h = .named "localhost" then .named "" else h

def readFile (cs : List Char) : Except UrlFault Url := do
  let bare : Url := ⟨"file", "", none, some (.named ""), none, .segments [], none, none⟩
  let below (u : Url) (cs : List Char) : Url :=
    u.withRest cs fun text => .segments (readPath true true (dropSlash true text))
  match cs with
  | c :: d :: rest =>
    if isSlash true c && isSlash true d then
      let hostText := rest.takeWhile (!endsAuthority true ·)
      if isDriveLetter hostText then return below bare rest
      let host ← readFileHost hostText
      let after := rest.drop hostText.length
      let u := below { bare with host := some host } after
      let drive := (pieces true (dropSlash true (after.takeWhile (!isPathEnd ·)))).head?
      return if (drive.map isDriveLetter).getD false then { u with host := some (.named "") } else u
    else return below bare cs
  | _ => return below bare cs

def readAfterScheme (scheme : String) (cs : List Char) : Except UrlFault Url :=
  if isFileScheme scheme then readFile cs
  else if isSpecialScheme scheme then readBelow scheme (cs.dropWhile (isSlash true))
  else
    match cs with
    | '/' :: '/' :: rest => readBelow scheme rest
    | '/' :: rest =>
      .ok ((⟨scheme, "", none, none, none, .segments [], none, none⟩ : Url).withRest rest
        fun text => .segments (readPath false false text))
    | _ =>
      .ok ((⟨scheme, "", none, none, none, .segments [], none, none⟩ : Url).withRest cs
        fun text => .plain (encoded isControl text))

def parse (s : String) : Except UrlFault Url :=
  match takeScheme (cleaned s.toList) with
  | some (scheme, rest) => readAfterScheme scheme rest
  | none => .error .relative

end DbConsole.Url

import DbConsole.Url.Host
import DbConsole.Url.Path

/-!
URLs: their parts, how they are written, and how a base address is extended to the address of a
request.
-/
set_option autoImplicit false

namespace DbConsole

inductive UrlPath where
  | segments (list : List String)
  /-- What follows the scheme where no slash does; nothing can be added to it. -/
  | plain (text : String)
  deriving DecidableEq

/-- A URL with every part encoded. The port is given only where it is not the scheme's own. -/
structure Url where
  scheme : String
  user : String
  password : Option String
  host : Option Host
  port : Option Nat
  path : UrlPath
  query : Option String
  fragment : Option String
  deriving DecidableEq

namespace Url

/-- The schemes whose URLs always have a host, with their ports. -/
def knownPorts : List (String × Nat) :=
  [("http", 80), ("https", 443), ("ws", 80), ("wss", 443), ("ftp", 21)]

def defaultPort? (scheme : String) : Option Nat :=
  (knownPorts.find? (·.1 == scheme)).map (·.2)

def isFileScheme (scheme : String) : Bool :=
  scheme == "file"

/-- Schemes of a known layout, in which a backslash is a slash. -/
def isSpecialScheme (scheme : String) : Bool :=
  isFileScheme scheme || (defaultPort? scheme).isSome

def credentials (u : Url) : String :=
  match u.password with
  | some p => u.user ++ ":" ++ p ++ "@"
  | none => if u.user.isEmpty then "" else u.user ++ "@"

def authority (u : Url) : String :=
  match u.host with
  | some h =>
    "//" ++ u.credentials ++ h.render ++
      (match u.port with
      | some p => ":" ++ toString p
      | none => "")
  | none => ""

def pathText (u : Url) : String :=
  match u.path with
  | .plain text => text
  | .segments list =>
    let text := String.join (list.map ("/" ++ ·))
    if u.host.isNone && list.head? = some "" && 1 < list.length then "/." ++ text else text

def marked (mark : String) : Option String → String
  | some text => mark ++ text
  | none => ""

def render (u : Url) : String :=
  u.scheme ++ ":" ++ u.authority ++ u.pathText ++ marked "?" u.query ++ marked "#" u.fragment

def isPlain (u : Url) : Bool :=
  match u.path with
  | .plain _ => true
  | .segments _ => false

/-- Whether a host is given that is not empty. -/
def hasHost (u : Url) : Bool :=
  match u.host with
  | some (.named name) => !name.isEmpty
  | some _ => true
  | none => false

/-- Adds segments below the path. -/
def extend (u : Url) (added : List String) : Url :=
  match u.path with
  | .plain _ => u
  | .segments list =>
    { u with
      path := .segments (extendPath (isSpecialScheme u.scheme) (isFileScheme u.scheme) list added) }

def formPair (p : String × String) : String :=
  String.ofList (Text.formEncode p.1.toList) ++ "=" ++ String.ofList (Text.formEncode p.2.toList)

/-- Adds pairs behind the query. -/
def addPairs (u : Url) (pairs : List (String × String)) : Url :=
  if pairs.isEmpty then u
  else
    let added := String.intercalate "&" (pairs.map formPair)
    match u.query with
    | some q => { u with query := some (if q.isEmpty then added else q ++ "&" ++ added) }
    | none => { u with query := some added }

def withoutCredentials (u : Url) : Url :=
  { u with user := "", password := none }

def withoutFragment (u : Url) : Url :=
  { u with fragment := none }

end Url

end DbConsole

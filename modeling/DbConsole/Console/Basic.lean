import DbConsole.Cache.Fetch
import DbConsole.Http.Message
import DbConsole.Listing
import DbConsole.Schema
import DbConsole.Session
import DbConsole.Token.Store
import DbConsole.Workspace

/-!
The console: everything that is known and shown on this side of the backend, and what changes it at
once.
-/
set_option autoImplicit false

namespace DbConsole

/-- What a read brings, by the kind of its key. -/
inductive Payload where
  | tables (tables : List Table)
  | database (summary : DatabaseSummary)
  | columns (columns : List Column)
  | indexes (indexes : List Index)
  | foreignKeys (keys : List ForeignKey)
  | page (page : Page)

namespace Payload

def tables? : Payload → Option (List Table)
  | .tables ts => some ts
  | _ => none

def database? : Payload → Option DatabaseSummary
  | .database d => some d
  | _ => none

def columns? : Payload → Option (List Column)
  | .columns cs => some cs
  | _ => none

def indexes? : Payload → Option (List Index)
  | .indexes is => some is
  | _ => none

def foreignKeys? : Payload → Option (List ForeignKey)
  | .foreignKeys ks => some ks
  | _ => none

def page? : Payload → Option Page
  | .page p => some p
  | _ => none

end Payload

structure Console where
  base : Url
  timeout : Option Nat
  tokens : TokenStore
  cache : Cache Payload Unit
  session : Session
  /-- The sessions that observers have been told of, the latest first. -/
  published : List Session
  /-- Whether a check of the session is under way; another one waits for it. -/
  probing : Bool
  workspace : Workspace
  /-- Whether entries that nobody reads are evicted from time to time. -/
  collecting : Bool
  now : Nat

/-- Work of the console, which asks the backend. -/
abbrev ConsoleTask (α : Type) : Type :=
  Task Console Request Reply α

namespace Console

instance : HasCache Console Payload Unit where
  cache := Console.cache
  setCache c cache := { c with cache := cache }
  now := Console.now

/-- A console for the backend at the address. -/
def create (address : String) (tokens : TokenStore) (settings : CacheSettings)
    (timeout : Option Nat) : Except Error Console :=
  (baseUrl address).map fun base =>
    { base := base
      timeout := timeout
      tokens := tokens
      cache := Cache.empty settings
      session := .initial
      published := []
      probing := false
      workspace := .initial
      collecting := false
      now := 0 }

/-- Takes on a session; observers hear of it only if it is another one. -/
def transition (c : Console) (next : Session) : Console :=
  if c.session = next then c else { c with session := next, published := next :: c.published }

def onWorkspace (f : Workspace → Workspace) (c : Console) : Console :=
  { c with workspace := f c.workspace }

/-- The request to an endpoint, with the token that is stored now. -/
def request (c : Console) (method : Method) (endpoint : Endpoint) (body : Option Json) : Request :=
  ⟨method, endpoint.url c.base, c.tokens.get?, body, c.timeout⟩

/-- Sends a request and reads the reply. -/
def send (α : Type) [Wire α] (method : Method) (endpoint : Endpoint) (body : Option Json) :
    ConsoleTask (Except Error α) := do
  let reply ← Task.ask fun c : Console => c.request method endpoint body
  return reply.read α (method.name ++ " " ++ endpoint.display)

/-- Sends a request that carries a message. -/
def sendMessage (α : Type) {β : Type} [Wire α] [Wire β] (method : Method) (endpoint : Endpoint)
    (message : β) : ConsoleTask (Except Error α) :=
  send α method endpoint (some (Wire.toJson message).canonical)

/-- Sends any request; a failure of whatever kind comes as an envelope that tells it. -/
def exchange (method : Method) (endpoint : Endpoint) (body : Option Json) :
    ConsoleTask (Envelope Json) := do
  match ← send Json method endpoint body with
  | .ok data => return .ok data
  | .error e => return .failure e.message

/-- Stores a token. -/
def setToken (token : String) : ConsoleTask (Except Error Unit) :=
  Task.turn fun c =>
    match c.tokens.set token with
    | .ok tokens => ({ c with tokens := tokens }, .ok ())
    | .error e => (c, .error e)

/-- Forgets the token. -/
def clearToken : ConsoleTask (Except Error Unit) :=
  Task.turn fun c =>
    match c.tokens.clear with
    | .ok tokens => ({ c with tokens := tokens }, .ok ())
    | .error e => (c, .error e)

end Console

end DbConsole

import DbConsole.Cache.Key
import DbConsole.Error
import DbConsole.Url.Parse

/-!
The base address of a backend, and where requests go below it: path segments, which may hold any
characters, and the pairs of a query.
-/
set_option autoImplicit false

namespace DbConsole

structure Endpoint where
  segments : List String
  query : List (String × String)
  deriving DecidableEq

namespace Endpoint

def ofSegments (segments : List String) : Endpoint :=
  ⟨segments, []⟩

def segment (e : Endpoint) (s : String) : Endpoint :=
  { e with segments := e.segments ++ [s] }

def withQuery (e : Endpoint) (pairs : List (String × String)) : Endpoint :=
  { e with query := e.query ++ pairs }

/-- The endpoint as messages show it, with nothing encoded. -/
def display (e : Endpoint) : String :=
  String.join (e.segments.map fun s => "/" ++ s) ++ Key.joinPairs e.query

end Endpoint

/-- The base address that a text gives; something must be able to stand below it. -/
def baseUrl (text : String) : Except Error Url :=
  match Url.parse text with
  | .error fault => .error (.invalid (.badUrl text fault))
  | .ok u => if u.isPlain then .error (.invalid (.opaqueUrl text)) else .ok u

/-- Where a request to the endpoint goes. -/
def Endpoint.url (base : Url) (e : Endpoint) : Url :=
  (base.extend e.segments).addPairs e.query

end DbConsole

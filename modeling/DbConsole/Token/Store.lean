import DbConsole.Disk.Basic
import DbConsole.Error
import DbConsole.Json.Value
import DbConsole.Json.Writer

/-!
Where the token of the session is kept: for the run of the program, or in a document on disk, in which
it is one member among others that belong to others.
-/
set_option autoImplicit false

namespace DbConsole.TokenDocument

/-- The member that holds the token. -/
def member : String :=
  "session_token"

/-- The members of the object that the text writes; none where it writes no object. -/
def read (text : Option String) : Dict Json :=
  match text.map Json.parse with
  | some (.ok (.object fields)) => Dict.ofList (Json.canonicalFields fields)
  | _ => Dict.empty

def write (members : Dict Json) : String :=
  (Json.object members.entries).pretty

/-- The token, which is never empty. -/
def token? (members : Dict Json) : Option String :=
  match members.get? member with
  | some (.string token) => if token.isEmpty then none else some token
  | _ => none

def withToken (members : Dict Json) (token : String) : Dict Json :=
  members.insert member (.string token)

end DbConsole.TokenDocument

namespace DbConsole

inductive TokenStore where
  | memory (token : Option String)
  | document (disk : Disk) (path : FilePath)

namespace TokenStore

def members (disk : Disk) (path : FilePath) : Dict Json :=
  TokenDocument.read (disk.readText? path)

def get? : TokenStore → Option String
  | .memory token => token
  | .document disk path => TokenDocument.token? (members disk path)

def has (s : TokenStore) : Bool :=
  s.get?.isSome

def save (disk : Disk) (path : FilePath) (ms : Dict Json) : Except Error TokenStore :=
  match disk.save path (TokenDocument.write ms) with
  | .ok disk => .ok (.document disk path)
  | .error fault => .error (.storage (.disk fault))

def set (s : TokenStore) (token : String) : Except Error TokenStore :=
  match s with
  | .memory _ => .ok (.memory (some token))
  | .document disk path => save disk path (TokenDocument.withToken (members disk path) token)

/-- Forgets the token; a document without one is left as it is. -/
def clear (s : TokenStore) : Except Error TokenStore :=
  match s with
  | .memory _ => .ok (.memory none)
  | .document disk path =>
    let ms := members disk path
    if ms.contains TokenDocument.member then save disk path (ms.erase TokenDocument.member)
    else .ok s

end TokenStore

end DbConsole

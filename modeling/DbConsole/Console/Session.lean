import DbConsole.Console.Basic

/-!
Opening, checking and closing the session.
-/
set_option autoImplicit false

namespace DbConsole.Console

/-- Asks the backend whether it holds a database open. -/
def status : ConsoleTask (Except Error StatusReport) :=
  send StatusReport .get (.ofSegments ["status"]) none

/-- Presents credentials; the token that they earn is stored. -/
def authenticate (credentials : Credentials) : ConsoleTask (Except Error Grant) := do
  match credentials.validate with
  | .error e => return .error e
  | .ok () =>
    match ← sendMessage Grant .post (.ofSegments ["connect"]) credentials with
    | .error e => return .error e
    | .ok grant => return (← setToken grant.token).map fun _ => grant

/-- Tells the backend that the session is over; the token is forgotten once it agrees. -/
def signOff : ConsoleTask (Except Error Unit) := do
  match ← send Json .post (.ofSegments ["disconnect"]) none with
  | .error e => return .error e
  | .ok _ => do
    let _ ← clearToken
    return .ok ()

/-- Takes on what a check of the session has brought; a token that opens nothing is forgotten. -/
def concludeProbe (report : Except Error StatusReport) : ConsoleTask Unit := do
  match report with
  | .ok r =>
    if r.connected then Task.change (·.transition (.connected r.database r.engine))
    else do
      let _ ← clearToken
      Task.change (·.transition (.plain .disconnected))
  | .error _ => do
    let _ ← clearToken
    Task.change (·.transition (.plain .disconnected))

/-- Checks the stored token with the backend, one check at a time. While a session is open it stays
so until the answer says otherwise. -/
def checkStatus : ConsoleTask Session := do
  .wait (fun c : Console => !c.probing) (.done ())
  Task.change fun c => { c with probing := true }
  if ← Task.look (·.tokens.has) then
    Task.change fun c => if c.session.isConnected then c else c.transition (.plain .checking)
    concludeProbe (← status)
  else Task.change (·.transition (.plain .disconnected))
  Task.change fun c => { c with probing := false }
  Task.look (·.session)

/-- Resolves the state of the session that a stored token may resume. -/
def start : ConsoleTask Session := do
  Task.change fun c =>
    let c := { c with collecting := true }
    if c.session.status = .uninitialized then c.transition (.plain .checking) else c
  checkStatus

/-- Opens a session. On failure nothing has changed. -/
def openSession (credentials : Credentials) : ConsoleTask (Except Error Grant) := do
  let granted ← authenticate credentials
  match granted with
  | .ok grant => Task.change (·.transition (.connected (some grant.database) (some grant.engine)))
  | .error _ => pure ()
  return granted

/-- Closes the session. The backend is told if it listens; on this side it is over regardless. -/
def closeSession : ConsoleTask (Except Error Unit) := do
  let _ ← signOff
  let cleared ← clearToken
  Task.change (·.transition (.plain .disconnected))
  return cleared

/-- Forgets what was cached and selected. -/
def forget : ConsoleTask Unit := do
  Task.yield
  Task.change fun c => { c with cache := c.cache.clear }
  Task.change (onWorkspace Workspace.reset)

/-- Opens a session; what was cached and selected in another one is forgotten. -/
def connect (credentials : Credentials) : ConsoleTask (Except Error Grant) := do
  match ← openSession credentials with
  | .error e => return .error e
  | .ok grant =>
    forget
    return .ok grant

/-- Closes the session and forgets what was cached and selected in it. -/
def disconnect : ConsoleTask (Except Error Unit) := do
  let closed ← closeSession
  forget
  return closed

end DbConsole.Console

import DbConsole.Console.Basic

/-!
The console in the form that diagnostics use.
-/
set_option autoImplicit false

namespace DbConsole.Console

/-- A time of so many milliseconds. -/
def describeTime (ms : Nat) : String :=
  if ms = 0 then "0ns"
  else if ms < 1000 then toString ms ++ "ms"
  else if ms % 1000 = 0 then toString (ms / 1000) ++ "s"
  else
    let thousandths := (toString (1000 + ms % 1000)).toList.drop 1
    let kept := (thousandths.reverse.dropWhile (· == '0')).reverse
    toString (ms / 1000) ++ "." ++ String.ofList kept ++ "s"

def flagText (b : Bool) : String :=
  if b then "true" else "false"

def describeClient (c : Console) : String :=
  "ApiClient \x7b base_url: " ++ Text.quoted c.base.render ++ ", has_token: " ++
    flagText c.tokens.has ++ " \x7d"

def describe (c : Console) : String :=
  "AppContext \x7b api: " ++ c.describeClient ++ ", session: SessionManager \x7b state: " ++
    c.session.describe ++ ", .. \x7d, .. \x7d"

def describeCache (c : Console) : String :=
  let s := c.cache.settings
  "QueryCache \x7b settings: CacheSettings \x7b stale_time: " ++ describeTime s.staleTime ++
    ", gc_time: " ++ describeTime s.gcTime ++ ", retry: " ++ toString s.retries ++
    ", retry_delay: " ++ describeTime s.retryDelay ++ " \x7d, .. \x7d"

def describeStore (c : Console) : String :=
  "DataStore \x7b api: " ++ c.describeClient ++ ", cache: " ++ c.describeCache ++ " \x7d"

end DbConsole.Console

import DbConsole.Http.Message
import DbConsole.Task.Pool

/-!
A backend that follows a script: routes that are tried in order, each with an answer that it gives
a number of times.
-/
set_option autoImplicit false

namespace DbConsole

/-- How an answer reaches the one who asked. -/
inductive Delivery where
  | whole
  | cutShort
  /-- The connection closes without an answer. -/
  | dropped
  | silent
  deriving DecidableEq

structure Route where
  /-- The method that the route is for, if it is for one alone. -/
  method : Option String
  path : Option String
  /-- How often the route answers, if not always. -/
  times : Option Nat
  uses : Nat
  status : Status
  text : Option String
  delivery : Delivery
  gate : Option String

/-- A request as it has arrived. -/
structure Received where
  method : String
  url : String
  authorization : List String
  body : Option String
  deriving DecidableEq

structure Backend where
  routes : List Route
  received : List Received
  /-- Whether any host can be reached at all. -/
  reachable : Bool

namespace Backend

/-- Whether the route is for requests like this one and not used up. -/
def answers (route : Route) (r : Request) : Bool :=
  (route.method.map (· == r.method.name)).getD true &&
    (route.path.map (· == r.url.pathText)).getD true &&
    (route.times.map (decide <| route.uses < ·)).getD true

/-- The reply where no route answers. -/
def noRoute : Reply :=
  .answered ⟨404⟩ (some "no route")

def isRefusing (b : Backend) (u : Url) : Bool :=
  !b.reachable || (u.host == some (.ipv4 0x7F000001) && u.port == some 9)

def receive (r : Request) : Received :=
  ⟨r.method.name, r.sentUrl.withoutFragment.render, r.authorization, r.body.map Json.compact⟩

/-- The answer of a route to a request that has arrived. -/
def deliver (route : Route) (r : Request) : Answer Reply :=
  let url := r.sentUrl.render
  let reply : Reply :=
    match route.delivery with
    | .whole => .answered route.status route.text
    | .cutShort => .cutShort
    | .dropped => .failed (.dropped url)
    | .silent => .failed (.timedOut url)
  match route.delivery, route.gate with
  | .silent, _ =>
    match r.timeout with
    | some time => .after time reply
    | none => .never
  | _, some gate => .behind gate reply
  | _, none => .now reply

/-- Takes a request, if it can be sent and the host is reached, and answers it. -/
def submit (b : Backend) (r : Request) : Backend × Answer Reply :=
  match r.refusal? with
  | some cause => (b, .now (.failed cause))
  | none =>
    if b.isRefusing r.url then (b, .now (.failed (.refused r.sentUrl.render)))
    else
      let b := { b with received := b.received ++ [receive r] }
      match b.routes.findIdx? (answers · r) with
      | some i =>
        match b.routes[i]? with
        | some route =>
          ({ b with routes := b.routes.set i { route with uses := route.uses + 1 } },
            deliver route r)
        | none => (b, .now noRoute)
      | none => (b, .now noRoute)

end Backend

end DbConsole

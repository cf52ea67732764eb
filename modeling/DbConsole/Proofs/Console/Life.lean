import DbConsole.Proofs.Console.Deeds
import DbConsole.Proofs.Task.Rely

/-!
Lives of the console, from any console on and before any backend. All that is done with it tells what
it has come to in full; meanwhile the view is edited by hand, the cache is marked, cleared and
collected, and the store of the token changes by itself.
-/
set_option autoImplicit false

namespace DbConsole.Console

/-- What an action comes to. -/
inductive Outcome where
  | session (session : Session)
  | grant (result : Except Error Grant)
  | closing (result : Except Error Unit)
  | rows (result : Except Error (Option Page))
  | store (result : Except Error Returned)

namespace Outcome

def grant? : Outcome → Option (Except Error Grant)
  | .grant result => some result
  | _ => none

def closing? : Outcome → Option (Except Error Unit)
  | .closing result => some result
  | _ => none

def rows? : Outcome → Option (Except Error (Option Page))
  | .rows result => some result
  | _ => none

variable {outcome : Outcome}

theorem eq_grant {result : Except Error Grant} (is : outcome.grant? = some result) :
    outcome = .grant result := by
  cases outcome <;> cases is
  rfl

theorem eq_closing {result : Except Error Unit} (is : outcome.closing? = some result) :
    outcome = .closing result := by
  cases outcome <;> cases is
  rfl

theorem eq_rows {result : Except Error (Option Page)} (is : outcome.rows? = some result) :
    outcome = .rows result := by
  cases outcome <;> cases is
  rfl

end Outcome

def telling {α : Type} (wrap : α → Outcome) (t : ConsoleTask α) : ConsoleTask (Option Outcome) :=
  t.bind fun a => .done (some (wrap a))

/-- The action with all that it comes to. -/
def Action.whole : Action → ConsoleTask (Option Outcome)
  | .start => telling .session Console.start
  | .checkStatus => telling .session Console.checkStatus
  | .connect true credentials => telling .grant (Console.connect credentials)
  | .connect false credentials => telling .grant (openSession credentials)
  | .disconnect true => telling .closing Console.disconnect
  | .disconnect false => telling .closing closeSession
  | .selectedRows policy => telling .rows (Console.selectedRows policy)
  | action => action.task.bind fun r => .done (r.map .store)

theorem Composes.whole {holds : (α : Type) → ConsoleTask α → Prop} (composes : Composes holds)
    (action : Action) : holds _ action.whole := by
  have telling {α : Type} {wrap : α → Outcome} {t : ConsoleTask α} (held : holds α t) :
      holds _ (telling wrap t) :=
    composes.bind held fun _ => composes.done _
  have stored (action : Action) :
      holds _ (action.task.bind fun r => .done (r.map Outcome.store)) :=
    composes.bind (composes.task action) fun _ => composes.done _
  cases action with
  | start => exact telling (composes.tends .start)
  | checkStatus => exact telling (composes.tends .checkStatus)
  | connect forgetting credentials =>
    cases forgetting with
    | true => exact telling (composes.connect credentials)
    | false => exact telling (composes.tends (.openSession credentials))
  | disconnect forgetting =>
    cases forgetting with
    | true => exact telling composes.disconnect
    | false => exact telling (composes.tends .closeSession)
  | selectedRows policy => exact telling (composes.stores (.of_work (.selectedRows policy)))
  | operate operation => exact stored (.operate operation)
  | dropTable table confirmed => exact stored (.dropTable table confirmed)
  | alterTable table change confirmed => exact stored (.alterTable table change confirmed)
  | executeSql request confirmed => exact stored (.executeSql request confirmed)

/-- What happens next in the life of a console. -/
inductive Doing (E : Type) where
  | begin (action : Action)
  | visit (place waits : Nat)
  | release (gate : String)
  | wake (time : Nat)
  | tidy
  | edit (e : Workspace.Edit)
  /-- Something is done to the cache by itself that brings nothing. -/
  | cache (e : Cache.Event Payload Unit) (quiet : e.lands = false)
  /-- The store of the token changes by itself. -/
  | tokens (f : TokenStore → TokenStore)
  | elapse (now : Nat)
  /-- The outside changes by itself. -/
  | outside (f : E → E)

namespace Doing

variable {E : Type}

def event : Doing E → Pool.Event Console E Request Reply Outcome
  | .begin action => .begin action.whole
  | .visit place waits => .visit place waits
  | .release gate => .release gate
  | .wake time => .wake time
  | .tidy => .tidy
  | .edit e => .drift (onWorkspace fun w => w.edit e)
  | .cache e _ => .drift fun c => { c with cache := e.apply c.cache }
  | .tokens f => .drift fun c => { c with tokens := f c.tokens }
  | .elapse now => .drift fun c => { c with now := now }
  | .outside f => .outside f

/-- The console does not change by itself, unless time goes on. -/
def isStill : Doing E → Bool
  | .edit _ | .cache _ _ | .tokens _ => false
  | _ => true

theorem deed_of_drift (doing : Doing E) {f : Console → Console} (drifts : doing.event = .drift f)
    (c : Console) : Deed c (f c) := by
  cases doing with
  | edit e =>
    cases drifts
    exact .view _ (.edit _ e)
  | cache e quiet =>
    cases drifts
    exact .cache e
  | tokens f =>
    cases drifts
    exact .session _ (.tokens _)
  | elapse now =>
    cases drifts
    exact .session _ (.rest c.probing c.collecting now)
  | _ => cases drifts

/-- What changes by itself brings nothing to the cache. -/
theorem event_of_drift (doing : Doing E) {f : Console → Console} (drifts : doing.event = .drift f)
    (c : Console) : ∃ e : Cache.Event Payload Unit, e.lands = false ∧
      (f c).cache = e.apply c.cache := by
  cases doing <;> cases drifts
  case cache e quiet => exact ⟨e, quiet, rfl⟩
  all_goals exact ⟨.leave 0, rfl, rfl⟩

theorem session_of_drift (doing : Doing E) {f : Console → Console} (drifts : doing.event = .drift f)
    (c : Console) : (f c).session = c.session := by
  cases doing <;> cases drifts <;> rfl

end Doing

structure Life (E : Type) where
  submit : E → Request → E × Answer Reply
  start : Console
  world : E
  does : Nat → Doing E

namespace Life

variable {E : Type}

def history (r : Life E) : History (systemBefore r.submit Outcome) where
  start := r.start
  world := r.world
  happens n := (r.does n).event

section Points

variable (r : Life E)

def console (n : Nat) : Console :=
  r.history.state n

/-- What the action that was begun there has come to. -/
def returned? (begun n : Nat) : Option Outcome :=
  r.history.result? begun n

/-- The request that is sent at a point, with the reply to it. -/
def exchange? (n : Nat) : Option (Request × Reply) :=
  r.history.exchange? n

/-- What is left of the task of the name has a visit. -/
def Runs (n : Nat) (name : String) (t : ConsoleTask (Option Outcome)) : Prop :=
  r.history.Runs n name t

/-- The task of the name comes to its end with the outcome, and leaves the console behind. -/
def Ends (n : Nat) (name : String) (outcome : Outcome) (c : Console) : Prop :=
  r.history.Ends n name (some outcome) c

/-- From the one point to the other, nothing is done but to visit tasks of these names. -/
def Only (names : List String) (since n : Nat) : Prop :=
  ∀ m, since ≤ m → m < n → (r.does m).isStill = true ∧ ∀ name t, r.Runs m name t → name ∈ names

end Points

variable {r : Life E} {n m place waits : Nat} {name : String} {t : ConsoleTask (Option Outcome)}

theorem exists_action_of_begin (begins : r.history.happens n = .begin t) :
    ∃ action, r.does n = .begin action ∧ action.whole = t := by
  change (r.does n).event = _ at begins
  cases does : r.does n <;> rw [does] at begins <;> cases begins
  exact ⟨_, rfl, rfl⟩

theorem happens_of_begin {action : Action} (begins : r.does n = .begin action) :
    r.history.happens n = .begin action.whole :=
  congrArg Doing.event begins

/-- What is begun has done nothing yet. -/
theorem console_succ_of_begin {action : Action} (begins : r.does n = .begin action) :
    r.console (n + 1) = r.console n := by
  refine History.state_succ_of_still ?_ fun f drifts => ?_
  · rintro name t ⟨place, waits, visit, _⟩
    cases (happens_of_begin begins).symm.trans visit
  · cases (happens_of_begin begins).symm.trans drifts

/-- Where nothing is done and no task is visited, only time may go on. -/
theorem console_succ_of_still (still : (r.does n).isStill = true)
    (quiet : ∀ name t, ¬ r.Runs n name t) :
    ∃ now, r.console (n + 1) = { r.console n with now := now } := by
  by_cases drifts : ∃ f, r.history.happens n = .drift f
  · obtain ⟨f, drift⟩ := drifts
    have same : r.console (n + 1) = f (r.console n) := History.state_succ_of_drift drift
    rw [same]
    change (r.does n).event = _ at drift
    cases does : r.does n <;> rw [does] at drift still <;> cases drift <;> cases still
    exact ⟨_, rfl⟩
  · exact ⟨(r.console n).now, History.state_succ_of_still quiet fun f drift => drifts ⟨f, drift⟩⟩

theorem only_of_all {names : List String} {since : Nat}
    (all : (List.range n).all (fun m => (r.does m).isStill &&
      (r.history.pool m).names.all names.contains) = true) : r.Only names since n := by
  intro m _ before
  have here := List.all_eq_true.mp all m (List.mem_range.mpr before)
  obtain ⟨still, named⟩ := Bool.and_eq_true_iff.mp here
  refine ⟨still, fun name t ⟨place, waits, _, found⟩ => ?_⟩
  have member : name ∈ (r.history.pool m).names :=
    List.mem_map.mpr ⟨_, List.mem_of_getElem? found, rfl⟩
  exact List.contains_iff_mem.mp (List.all_eq_true.mp named name member)

theorem within_deeds (r : Life E) : r.history.Within Deeds where
  refl := Deeds.refl
  trans _ _ _ := Deeds.trans
  begun n t begins := by
    obtain ⟨action, _, rfl⟩ := exists_action_of_begin begins
    exact Works.composes.whole action
  drifts n f drifts c := .of_deed ((r.does n).deed_of_drift drifts c)
  taken c := .of_deed .departures
  started c t among := by
    obtain ⟨f, _, _, rfl⟩ := exists_flying_of_started among
    exact Works.fly _ f

/-- Whatever happens from one point to another is done to the console one thing at a time. -/
theorem deeds (r : Life E) (le : n ≤ m) : Deeds (r.console n) (r.console m) :=
  r.within_deeds.between le

end Life

/-! ### Where lives may begin -/

/-- The reply of a backend that agrees and tells the data. -/
def agreeing (data : String) : Reply :=
  .answered ⟨200⟩ (some ("\x7b\"success\":true,\"data\":" ++ data ++ "\x7d"))

/-- A backend whose replies to reads are late. -/
def gatedBackend (read write : Reply) (_ : Unit) (request : Request) : Unit × Answer Reply :=
  match request.method with
  | .get => ((), .behind "late" read)
  | _ => ((), .now write)

/-- A console that holds a token and a view, and nothing else. -/
def tokenConsole (workspace : Workspace) : Console where
  base := ⟨"http", "", none, some (.named "db"), none, .segments [], none, none⟩
  timeout := none
  tokens := .memory (some "old")
  cache := .empty ⟨1000, 1000, 0, 0⟩
  session := .initial
  published := []
  probing := false
  workspace := workspace
  collecting := false
  now := 0

end DbConsole.Console

import DbConsole.Proofs.Cache.Run
import DbConsole.Proofs.Console.Course
import DbConsole.Proofs.Workspace.Tickets

/-!
What the work of the store is made of. Every change goes about it in one of three ways, and whatever the
store does, it does in a few kinds of steps. So what is true of the ways is true of all changes, and what
is true of the steps and passes from one to the next is true of all that the store does.
-/
set_option autoImplicit false

namespace DbConsole.Console

variable {α β : Type}

/-! ### Requests -/

/-- The task sends one request, or fails before. -/
inductive Sends : ConsoleTask (Except Error α) → Prop
  | refused (e : Error) : Sends (.done (.error e))
  | send [Wire α] (method : Method) (endpoint : Endpoint) (body : Option Json) :
    Sends (Console.send α method endpoint body)

namespace Sends

theorem get [Wire α] (endpoint : Except Error Endpoint) : Sends (Console.get α endpoint) := by
  cases endpoint with
  | error e => exact refused e
  | ok endpoint => exact send _ _ _

theorem deliver [Wire α] [Wire β] (method : Method) (endpoint : Except Error Endpoint)
    (message : β) : Sends (Console.deliver α method endpoint message) := by
  cases endpoint with
  | error e => exact refused e
  | ok endpoint => exact send _ _ _

theorem deleteAt [Wire α] (endpoint : Except Error Endpoint) :
    Sends (Console.deleteAt α endpoint) := by
  cases endpoint with
  | error e => exact refused e
  | ok endpoint => exact send _ _ _

theorem sendCreateTable (spec : TableSpec) : Sends (Console.sendCreateTable spec) := by
  unfold Console.sendCreateTable
  cases spec.validate with
  | error e => exact refused e
  | ok u => exact send _ _ _

theorem sendAlterTable (table : String) (change : Alteration) :
    Sends (Console.sendAlterTable table change) := by
  unfold Console.sendAlterTable
  cases change.validate with
  | error e => exact refused e
  | ok u => exact deliver _ _ _

theorem sendSql (request : SqlRequest) : Sends (Console.sendSql request) := by
  unfold Console.sendSql
  cases request.validate with
  | error e => exact refused e
  | ok u => exact send _ _ _

theorem fetchPage (table : String) (query : PageQuery) : Sends (Console.fetchPage table query) := by
  unfold Console.fetchPage
  cases query.validate with
  | error e => exact refused e
  | ok u => exact get _

/-- What is under a key is asked for once, and what the backend says becomes the payload. -/
theorem fetchPayload (key : Key) :
    ∃ (γ : Type) (t : ConsoleTask (Except Error γ)) (wrap : γ → Payload), Sends t ∧
      Console.fetchPayload key = t.bind fun r => .done (r.map wrap) := by
  cases key with
  | tables => exact ⟨_, _, _, send _ _ _, rfl⟩
  | databaseInfo => exact ⟨_, _, _, send _ _ _, rfl⟩
  | columns table => exact ⟨_, _, _, get _, rfl⟩
  | indexes table => exact ⟨_, _, _, get _, rfl⟩
  | foreignKeys table => exact ⟨_, _, _, get _, rfl⟩
  | rows table query => exact ⟨_, _, _, fetchPage table query, rfl⟩

end Sends

/-! ### The ways of a change -/

/-- How a change is made that marks what the plan covers: it is refused; or a request is sent, and what
comes of it concludes the change; or the columns of a table are read first, without which it fails, and it
goes on in one of these ways. The key is the one that it may read. -/
inductive Makes (plan : Plan) : Option Key → ConsoleTask (Except Error α) → Prop
  | refused (key? : Option Key) (e : Error) : Makes plan key? (.done (.error e))
  | sent (key? : Option Key) {t : ConsoleTask (Except Error α)} (sends : Sends t) :
    Makes plan key? (t.bind (concluding plan))
  | read {table : String} {k : Except Error (List Column) → ConsoleTask (Except Error α)}
    (fails : ∀ e, k (.error e) = .done (.error e)) (rest : ∀ cs, Makes plan none (k (.ok cs))) :
    Makes plan (some (.columns table)) ((columns table .cached).bind k)

/-- What a change reads before it asks for anything. -/
def Change.reads? : Change → Option Key
  | .insertRow table _ => some (.columns table)
  | .updateRow table _ _ => some (.columns table)
  | .deleteRow table _ _ => some (.columns table)
  | _ => none

namespace Makes

variable {plan : Plan} {key? : Option Key}

/-- A check comes first. -/
theorem checked {t : ConsoleTask (Except Error α)} (outcome : Except Error Unit)
    (makes : Makes plan key? t) :
    Makes plan key? (match outcome with
      | .error e => .done (.error e)
      | .ok () => t) := by
  cases outcome with
  | error e => exact refused _ e
  | ok u => exact makes

/-- It fails also where the table has no key. -/
theorem readKeyed {table : String} {k : Except Error (List Column) → ConsoleTask (Except Error α)}
    (fails : ∀ e, k (.error e) = .done (.error e)) (rest : ∀ cs, Makes plan none (k (.ok cs))) :
    Makes plan (some (.columns table)) ((keyedColumns table).bind k) := by
  change Makes plan _ (((columns table .cached).bind _).bind k)
  rw [Task.bind_bind]
  refine read (fun e => fails e) fun cs => ?_
  dsimp only
  split
  · change Makes plan none (k (.error _))
    rw [fails]
    exact refused none _
  · exact rest cs

theorem storeAlterTable (table : String) (change : Alteration) (confirmed : Bool) :
    Makes (.alterTable table change) none (Console.storeAlterTable table change confirmed) := by
  unfold Console.storeAlterTable
  split
  · exact refused _ _
  · exact sent _ (.sendAlterTable table change)

theorem storeDropTable (table : String) (confirmed : Bool) :
    Makes (.dropTable table) none (Console.storeDropTable table confirmed) := by
  unfold Console.storeDropTable
  split
  · exact sent _ (.deleteAt _)
  · exact refused _ _

theorem insertRow (table : String) (row : Row) :
    Makes (.rowChange table) (some (.columns table)) (Console.insertRow table row) :=
  read (fun _ => rfl) fun cs => checked (checkRow row cs .insert) (sent _ (.deliver _ _ _))

theorem updateRow (table : String) (id : RowId) (row : Row) :
    Makes (.rowChange table) (some (.columns table)) (Console.updateRow table id row) :=
  readKeyed (fun _ => rfl) fun cs => checked (checkRow row cs .update) (sent _ (.deliver _ _ _))

theorem deleteRow (table : String) (id : RowId) (confirmed : Bool) :
    Makes (.rowChange table) (some (.columns table)) (Console.deleteRow table id confirmed) := by
  unfold Console.deleteRow
  split
  · exact readKeyed (fun _ => rfl) fun _ => sent _ (.deleteAt _)
  · exact refused _ _

theorem storeExecuteSql (request : SqlRequest) (engine : Option Engine) (confirmed : Bool) :
    Makes (.ofScope (Sql.scope engine request.sql)) none
      (Console.storeExecuteSql request engine confirmed) := by
  refine checked request.validate ?_
  split
  · exact refused _ _
  · exact sent _ (.sendSql request)

end Makes

/-- Every change is made in one of the ways. -/
theorem Change.makes (change : Change) :
    ∃ (γ : Type) (wrap : γ → Returned) (t : ConsoleTask (Except Error γ)),
      Makes change.plan change.reads? t ∧ change.task = returning wrap t := by
  cases change with
  | createTable spec => exact ⟨_, _, _, .sent _ (.sendCreateTable spec), rfl⟩
  | alterTable table change confirmed => exact ⟨_, _, _, .storeAlterTable _ _ _, rfl⟩
  | dropTable table confirmed => exact ⟨_, _, _, .storeDropTable _ _, rfl⟩
  | insertRow table row => exact ⟨_, _, _, .insertRow _ _, rfl⟩
  | updateRow table id row => exact ⟨_, _, _, .updateRow _ _ _, rfl⟩
  | deleteRow table id confirmed => exact ⟨_, _, _, .deleteRow _ id _, rfl⟩
  | executeSql request engine confirmed => exact ⟨_, _, _, .storeExecuteSql _ _ _, rfl⟩

/-! ### What the selection follows -/

/-- Behind a success the view is brought up to date; the outcome stays as it is. -/
def following (follow : ConsoleTask Unit) : Except Error α → ConsoleTask (Except Error α)
  | .error e => .done (.error e)
  | .ok a => follow.bind fun _ => .done (.ok a)

theorem concluding_eq (plan : Plan) :
    (concluding plan : Except Error α → ConsoleTask (Except Error α)) =
      following (applyPlan plan) := by
  funext outcome
  cases outcome <;> rfl

/-- What the view does behind a table that has been altered. -/
def followAlteration (table : String) (change : Alteration) : ConsoleTask Unit :=
  match change.renamedTo? with
  | some newName => Task.change (onWorkspace (·.tableRenamed table newName))
  | none => .done ()

/-- What the view does behind SQL. -/
def followSql (request : SqlRequest) (engine : Option Engine) : ConsoleTask Unit :=
  match Sql.droppedTables? engine request.sql, Sql.renamedTables? engine request.sql with
  | some dropped, some renamed => Task.change (onWorkspace (followBatch dropped renamed))
  | _, _ => reconcile

theorem dropTable_eq (table : String) (confirmed : Bool) :
    dropTable table confirmed = (storeDropTable table confirmed).bind
      (following (Task.change (onWorkspace (·.tableDropped table)))) := by
  refine congrArg (Task.bind _) (funext fun outcome => ?_)
  cases outcome <;> rfl

theorem alterTable_eq (table : String) (change : Alteration) (confirmed : Bool) :
    alterTable table change confirmed = (storeAlterTable table change confirmed).bind
      (following (followAlteration table change)) := by
  refine congrArg (Task.bind _) (funext fun outcome => ?_)
  cases outcome with
  | error e => rfl
  | ok receipt =>
    rw [following, followAlteration]
    cases change.renamedTo? <;> rfl

theorem executeSql_eq (request : SqlRequest) (confirmed : Bool) :
    executeSql request confirmed = (Task.look (·.session.engine)).bind fun engine =>
      (storeExecuteSql request engine confirmed).bind (following (followSql request engine)) := by
  refine congrArg (Task.bind _) (funext fun engine => congrArg (Task.bind _) (funext fun outcome => ?_))
  cases outcome with
  | error e => rfl
  | ok result =>
    rw [following, followSql]
    cases Sql.droppedTables? engine request.sql with
    | none => rfl
    | some dropped => cases Sql.renamedTables? engine request.sql <;> rfl

/-! ### The steps -/

/-- What is looked at has nothing to do with where the token is kept. -/
def Tokenless (f : Console → α) : Prop :=
  ∀ c tokens, f { c with tokens := tokens } = f c

/-- Work of the store, as it is put together. -/
inductive StoreWork : {α : Type} → ConsoleTask α → Prop
  | done {α : Type} (a : α) : StoreWork (.done a)
  | bind {α β : Type} {t : ConsoleTask α} {k : α → ConsoleTask β} (first : StoreWork t)
    (rest : ∀ a, StoreWork (k a)) : StoreWork (t.bind k)
  | look {α : Type} {f : Console → α} (apart : Tokenless f) : StoreWork (Task.look f)
  | until? {α : Type} {f : Console → Option α} (apart : Tokenless f) (fallback : α) :
    StoreWork (Task.until? f fallback)
  | startRead (key : Key) (policy : FetchPolicy) : StoreWork (Cache.startRead key policy ())
  | send {α : Type} [Wire α] (method : Method) (endpoint : Endpoint) (body : Option Json) :
    StoreWork (Console.send α method endpoint body)
  | applyPlan (plan : Plan) : StoreWork (Console.applyPlan plan)
  | select {f : Workspace → Workspace} (onward : ∀ w : Workspace, w.Onward (f w)) :
    StoreWork (Task.change (onWorkspace f))

namespace StoreWork

/-- A failure is the end. -/
theorem behind {t : ConsoleTask (Except Error α)} {k : Except Error α → ConsoleTask (Except Error β)}
    (work : StoreWork t) (fails : ∀ e, k (.error e) = .done (.error e))
    (rest : ∀ a, StoreWork (k (.ok a))) : StoreWork (t.bind k) := by
  refine bind work fun outcome => ?_
  cases outcome with
  | error e => exact (fails e).symm ▸ done _
  | ok a => exact rest a

theorem following {t : ConsoleTask (Except Error α)} {follow : ConsoleTask Unit} (work : StoreWork t)
    (follows : StoreWork follow) : StoreWork (t.bind (following follow)) :=
  work.behind (fun _ => rfl) fun _ => bind follows fun _ => done _

theorem returning {wrap : α → Returned} {t : ConsoleTask (Except Error α)} (work : StoreWork t) :
    StoreWork (Console.returning wrap t) :=
  bind work fun _ => done _

theorem reporting {t : ConsoleTask (Except Error α)} (work : StoreWork t) :
    StoreWork (Console.reporting t) :=
  bind work fun _ => done _

/-! ### Reads -/

theorem fetch (key : Key) (policy : FetchPolicy) (cast : Payload → Option α) :
    StoreWork (Cache.fetch key policy () cast : ConsoleTask (Except Error α)) := by
  refine bind (startRead key policy) fun reading => ?_
  cases reading with
  | served v => exact done _
  | awaiting flight => exact until? (fun _ _ => rfl) _

theorem rows (table : String) (query : PageQuery) (policy : FetchPolicy) :
    StoreWork (Console.rows table query policy) := by
  unfold Console.rows
  cases query.validate with
  | error e => exact done _
  | ok u => exact fetch _ _ _

theorem tableSchema (table : String) (policy : FetchPolicy) :
    StoreWork (Console.tableSchema table policy) :=
  bind (startRead _ _) fun _ => bind (startRead _ _) fun _ => bind (startRead _ _) fun _ =>
    until? (fun _ _ => rfl) _

theorem read (read : Read) : StoreWork read.task := by
  cases read with
  | one key policy =>
    cases key with
    | rows table query => exact returning (rows table query policy)
    | _ => exact returning (fetch _ _ _)
  | tableSchema table policy => exact returning (tableSchema table policy)
  | rowId table row =>
    exact returning (behind (fetch _ _ _) (fun _ => rfl) fun _ => done _)

theorem selectedRows (policy : FetchPolicy) : StoreWork (Console.selectedRows policy) := by
  refine bind (look fun _ _ => rfl) fun ticket => ?_
  cases ticket.table with
  | none => exact done _
  | some table =>
    refine behind (rows _ _ _) (fun _ => rfl) fun page => bind (look fun _ _ => rfl) fun current => ?_
    split <;> exact done _

/-! ### Changes -/

theorem of_sends {t : ConsoleTask (Except Error α)} (sends : Sends t) : StoreWork t := by
  cases sends with
  | refused e => exact done _
  | send method endpoint body => exact send _ _ _

theorem of_makes {plan : Plan} {key? : Option Key} {t : ConsoleTask (Except Error α)}
    (makes : Makes plan key? t) : StoreWork t := by
  induction makes with
  | refused key? e => exact done _
  | sent key? sends => exact concluding_eq (α := α) plan ▸ (of_sends sends).following (applyPlan plan)
  | read fails rest ih => exact behind (fetch _ _ _) fails ih

theorem change (change : Change) : StoreWork change.task := by
  obtain ⟨_, _, _, makes, same⟩ := change.makes
  rw [same]
  exact returning (of_makes makes)

theorem reconcile : StoreWork Console.reconcile := by
  refine bind (look fun _ _ => rfl) fun selected => ?_
  cases selected with
  | none => exact done _
  | some table =>
    refine bind (fetch _ _ _) fun outcome => ?_
    cases outcome with
    | error e => exact done _
    | ok ts =>
      dsimp only
      split
      · exact done _
      · exact select fun w => .tableDropped w table

theorem followAlteration (table : String) (change : Alteration) :
    StoreWork (Console.followAlteration table change) := by
  unfold Console.followAlteration
  cases change.renamedTo? with
  | none => exact done _
  | some newName => exact select fun w => .tableRenamed w table newName

theorem followSql (request : SqlRequest) (engine : Option Engine) :
    StoreWork (Console.followSql request engine) := by
  unfold Console.followSql
  split
  · exact select fun w => .followBatch _ _ w
  · exact reconcile

theorem dropTable (table : String) (confirmed : Bool) :
    StoreWork (Console.dropTable table confirmed) := by
  rw [dropTable_eq]
  exact (of_makes (.storeDropTable table confirmed)).following (select fun w => .tableDropped w table)

theorem alterTable (table : String) (change : Alteration) (confirmed : Bool) :
    StoreWork (Console.alterTable table change confirmed) := by
  rw [alterTable_eq]
  exact (of_makes (.storeAlterTable table change confirmed)).following (followAlteration table change)

theorem executeSql (request : SqlRequest) (confirmed : Bool) :
    StoreWork (Console.executeSql request confirmed) := by
  rw [executeSql_eq]
  exact bind (look fun _ _ => rfl) fun engine =>
    (of_makes (.storeExecuteSql request engine confirmed)).following (followSql request engine)

theorem operate (operation : Operation) : StoreWork operation.task := by
  cases operation with
  | read operation => exact read operation
  | change operation => exact change operation

end StoreWork

/-! ### What the steps do -/

/-- The cache has had an event that brings nothing, and the view may be another one. -/
def Storing (c c' : Console) : Prop :=
  ∃ e : Cache.Event Payload Unit, e.lands = false ∧
    ∃ w, c.workspace.Onward w ∧ c' = { c with cache := e.apply c.cache, workspace := w }

theorem Storing.event (c : Console) (e : Cache.Event Payload Unit) (apart : e.lands = false) :
    Storing c { c with cache := e.apply c.cache } :=
  ⟨e, apart, c.workspace, .refl _, rfl⟩

theorem Storing.refl (c : Console) : Storing c c :=
  .event c (.leave 0) rfl

/-- All that the task does to the console is work of the store. -/
def Stores (t : ConsoleTask α) : Prop :=
  t.Within Storing

namespace Stores

theorem look (f : Console → α) : Stores (Task.look f : ConsoleTask α) :=
  ⟨Storing.refl, fun _ => trivial⟩

theorem select {f : Workspace → Workspace} (onward : ∀ w : Workspace, w.Onward (f w)) :
    Stores (Task.change (onWorkspace f) : ConsoleTask Unit) :=
  ⟨fun c => ⟨.leave 0, rfl, f c.workspace, onward _, rfl⟩, fun _ => trivial⟩

/-- What the store does is work of the store. -/
theorem of_work {t : ConsoleTask α} (work : StoreWork t) : Stores t := by
  induction work with
  | done a => trivial
  | bind first rest stores follow => exact stores.bind follow
  | look apart => exact look _
  | until? apart fallback => exact look _
  | startRead key policy =>
    exact ⟨fun c => .event c (.read c.now key policy ()) rfl, fun _ => trivial⟩
  | send method endpoint body => exact fun _ => trivial
  | applyPlan plan => exact ⟨fun c => .event c (.invalidate plan.filters) rfl, fun _ => trivial⟩
  | select onward => exact select onward

end Stores

end DbConsole.Console

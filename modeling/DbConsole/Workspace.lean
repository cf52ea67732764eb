import DbConsole.Listing
import DbConsole.Row.Key

/-!
What a person looks at: the selected table, the selected rows, the mode and the page. Every change
counts the generation up, so that a ticket taken before a read tells whether its answer is still
wanted. Who calls on the view is answered, and who watches it is shown what it changes to.
-/
set_option autoImplicit false

namespace DbConsole

inductive ViewMode where
  | table
  | schema
  | sql
  deriving DecidableEq, Repr

structure Workspace where
  table : Option String
  selected : List RowId
  mode : ViewMode
  query : PageQuery
  generation : Nat
  deriving DecidableEq

/-- The view that a read was started for. -/
structure Ticket where
  generation : Nat
  table : Option String
  query : PageQuery
  deriving DecidableEq

namespace Workspace

def firstPage : PageQuery :=
  .ofPage 1 defaultPageSize

def initial : Workspace :=
  ⟨none, [], .table, firstPage, 0⟩

/-- Counts a change. -/
def bump (w : Workspace) : Workspace :=
  { w with generation := w.generation + 1 }

/-- Selects a table, and with it no row and the first page. -/
def selectTable (w : Workspace) (table : Option String) : Workspace :=
  { w with table := table, selected := [], query := firstPage }.bump

def setMode (w : Workspace) (mode : ViewMode) : Workspace :=
  { w with mode := mode }.bump

def setQuery (w : Workspace) (query : PageQuery) : Workspace :=
  { w with query := query }.bump

def isSelected (w : Workspace) (id : RowId) : Bool :=
  w.selected.contains id

/-- Selects the row if it is not selected, and else deselects it. -/
def toggleRow (w : Workspace) (id : RowId) : Workspace :=
  if w.isSelected id then { w with selected := w.selected.filter (· != id) }.bump
  else { w with selected := w.selected ++ [id] }.bump

def clearRows (w : Workspace) : Workspace :=
  { w with selected := [] }.bump

/-- A table is gone; nothing happens unless it was the selected one. -/
def tableDropped (w : Workspace) (table : String) : Workspace :=
  if w.table = some table then w.selectTable none else w

/-- A table has a new name, which the selection follows. -/
def tableRenamed (w : Workspace) (old new : String) : Workspace :=
  if w.table = some old then { w with table := some new }.bump else w

/-- The initial view under a new generation. -/
def reset (w : Workspace) : Workspace :=
  { initial with generation := w.generation }.bump

def ticket (w : Workspace) : Ticket :=
  ⟨w.generation, w.table, w.query⟩

/-- Whether nothing has changed since the ticket was taken. -/
def isCurrent (w : Workspace) (t : Ticket) : Bool :=
  w.generation == t.generation

/-! ### Calls -/

/-- What can be done to the view by hand. -/
inductive Edit where
  | selectTable (table : Option String)
  | setMode (mode : ViewMode)
  | setQuery (query : PageQuery)
  | toggleRow (id : RowId)
  | clearRows
  | tableDropped (table : String)
  | tableRenamed (old new : String)
  | reset
  deriving DecidableEq

def edit (w : Workspace) : Edit → Workspace
  | .selectTable table => w.selectTable table
  | .setMode mode => w.setMode mode
  | .setQuery query => w.setQuery query
  | .toggleRow id => w.toggleRow id
  | .clearRows => w.clearRows
  | .tableDropped table => w.tableDropped table
  | .tableRenamed old new => w.tableRenamed old new
  | .reset => w.reset

inductive Call where
  | edit (e : Edit)
  | state
  | selectedTable
  | ticket
  | isCurrent (t : Ticket)
  deriving DecidableEq

inductive Answer where
  | done
  | flag (value : Bool)
  | state (w : Workspace)
  | table (name : Option String)
  | ticket (t : Ticket)
  deriving DecidableEq

/-- The view with the views that have been published, the latest first. -/
structure Watched where
  view : Workspace
  published : List Workspace
  deriving DecidableEq

namespace Watched

/-- The first view, of which nothing has been published. -/
def new : Watched :=
  ⟨.initial, []⟩

/-- Takes a view on and shows it to all who watch. -/
def publish (s : Watched) (next : Workspace) : Watched :=
  ⟨next, next :: s.published⟩

/-- Who toggles a row is told whether it is selected now, and who reports a table gone or renamed
whether it was the selected one. If it was not, there is nothing to publish. -/
def edit (s : Watched) : Edit → Watched × Answer
  | .toggleRow id => (s.publish (s.view.toggleRow id), .flag (!s.view.isSelected id))
  | .tableDropped table =>
    if s.view.table = some table then (s.publish (s.view.tableDropped table), .flag true)
    else (s, .flag false)
  | .tableRenamed old new =>
    if s.view.table = some old then (s.publish (s.view.tableRenamed old new), .flag true)
    else (s, .flag false)
  | e => (s.publish (s.view.edit e), .done)

def call (s : Watched) : Call → Watched × Answer
  | .edit e => s.edit e
  | .state => (s, .state s.view)
  | .selectedTable => (s, .table s.view.table)
  | .ticket => (s, .ticket s.view.ticket)
  | .isCurrent t => (s, .flag (s.view.isCurrent t))

end Watched

end Workspace

end DbConsole

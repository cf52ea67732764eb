import DbConsole.Console.Changes
import DbConsole.Sql.Batch

/-!
What the guard of unconfirmed SQL keeps from the backend. It looks at the statements of a batch and
not into them, so it keeps away just what destroys data in a statement's own name. Into them go the parts
of a statement, at any depth: the statements in its queries, in their common table expressions, in what
an explanation explains and in blocks, and the `SELECT`s.
-/
set_option autoImplicit false

namespace DbConsole

/-- The next thing that a task does is to ask a question. -/
def Task.Calls {σ Q A α : Type} : Task σ Q A α → Prop
  | .call _ _ => True
  | _ => False

namespace Sql

/-! ### The parts of a statement -/

/-- A statement that stands in a batch, or a `SELECT` with whether it makes a table of its rows; and
whether running the batch runs it. -/
inductive Part where
  | statement (runs : Bool) (statement : Statement)
  | select (runs : Bool) (makesTable : Bool)

def Part.runs : Part → Bool
  | .statement runs _ => runs
  | .select runs _ => runs

mutual

def Query.parts (runs : Bool) : Query → List Part
  | .mk tables body within =>
    Query.partsOf runs tables ++ body.parts runs ++ Query.partsOf runs within

def Query.partsOf (runs : Bool) : List Query → List Part
  | [] => []
  | q :: rest => q.parts runs ++ Query.partsOf runs rest

def Body.parts (runs : Bool) : Body → List Part
  | .select makesTable within => .select runs makesTable :: Query.partsOf runs within
  | .nested query => query.parts runs
  | .combined left right => left.parts runs ++ right.parts runs
  | .values within => Query.partsOf runs within
  | .table => []
  | .statement s => .statement runs s :: s.inside runs

/-- What stands in a statement. An explained statement runs only where the explanation has it run,
and what is put by does not run. -/
def Statement.inside (runs : Bool) : Statement → List Part
  | .query query => query.parts runs
  | .describe => []
  | .show within => Query.partsOf runs within
  | .explain runsOperand within operand =>
    Query.partsOf runs within ++
      .statement (runs && runsOperand) operand :: operand.inside (runs && runsOperand)
  | .insert within => Query.partsOf runs within
  | .update _ within => Query.partsOf runs within
  | .delete _ within => Query.partsOf runs within
  | .merge within => Query.partsOf runs within
  | .copy within => Query.partsOf runs within
  | .drop _ _ => []
  | .alterTable _ _ => []
  | .truncate => []
  | .renameTables _ => []
  | .schema _ within => Query.partsOf runs within
  | .transaction => []
  | .other within block => Query.partsOf runs within ++ Statement.insideOf runs block
  | .storing block => Statement.insideOf false block

/-- The statements of a block, and what stands in them. -/
def Statement.insideOf (runs : Bool) : List Statement → List Part
  | [] => []
  | s :: rest => .statement runs s :: s.inside runs ++ Statement.insideOf runs rest

end

/-- The parts of a batch, its own statements among them. -/
def partsOf (statements : List Statement) : List Part :=
  Statement.insideOf true statements

theorem mem_partsOf {statements : List Statement} {part : Part} :
    part ∈ partsOf statements ↔
      ∃ s ∈ statements, part = .statement true s ∨ part ∈ s.inside true := by
  rw [partsOf]
  induction statements with
  | nil => simp [Statement.insideOf]
  | cons s rest ih => simp [Statement.insideOf, ih, or_assoc]

/-! ### What the guard looks at -/

/-- A table, an index, a database, a schema, a column or all rows of a table are lost. -/
def Statement.Destroys : Statement → Prop
  | .drop target _ => target ∈ [.table, .index, .database, .schema]
  | .alterTable _ changes => .dropColumn ∈ changes
  | .truncate => True
  | .delete filtered _ => filtered = false
  | .update filtered _ => filtered = false
  | _ => False

def Part.Destroys : Part → Prop
  | .statement _ s => s.Destroys
  | .select _ _ => False

theorem DropTarget.danger?_eq_none_iff (target : DropTarget) :
    target.danger? = none ↔ target ∉ [.table, .index, .database, .schema] := by
  cases target <;> simp [danger?]

theorem Statement.danger?_eq_none_iff (s : Statement) : s.danger? = none ↔ ¬ s.Destroys := by
  cases s with
  | drop target names => exact target.danger?_eq_none_iff
  | alterTable name changes => simp [danger?, Destroys]
  | delete filtered within => cases filtered <;> simp [danger?, Destroys]
  | update filtered within => cases filtered <;> simp [danger?, Destroys]
  | _ => simp [danger?, Destroys]

instance (s : Statement) : Decidable s.Destroys :=
  decidable_of_iff (s.danger? ≠ none) (by rw [ne_eq, s.danger?_eq_none_iff, Classical.not_not])

instance : (part : Part) → Decidable part.Destroys
  | .statement _ s => inferInstanceAs (Decidable s.Destroys)
  | .select _ _ => inferInstanceAs (Decidable False)

/-- The guard lets a text pass that can be read and whose statements do not destroy anything
themselves. -/
theorem danger?_eq_none_iff (engine : Option Engine) (text : String) :
    danger? engine text = none ↔
      ∃ statements, batch? engine text = some statements ∧ ∀ s ∈ statements, ¬ s.Destroys := by
  rw [danger?]
  cases batch? engine text with
  | none => simp
  | some statements => simp [Statement.danger?_eq_none_iff]

end Sql

namespace Console

variable {request : SqlRequest} {engine : Option Engine}

theorem validate_eq_ok_iff : request.validate = .ok () ↔ Text.isAllBlank request.sql = false := by
  rw [SqlRequest.validate]
  cases Text.isAllBlank request.sql <;> simp

/-- Unconfirmed SQL goes to the backend if the request is well-formed and the guard is silent. -/
theorem storeExecuteSql_calls_iff :
    (storeExecuteSql request engine false).Calls ↔
      request.validate = .ok () ∧ Sql.danger? engine request.sql = none := by
  unfold storeExecuteSql
  cases valid : request.validate with
  | error e => simp [Task.Calls, pure]
  | ok u =>
    cases danger : Sql.danger? engine request.sql with
    | some d => simp [Task.Calls, pure]
    | none => simp [Task.Calls, sendSql, valid, sendMessage, send, Task.ask, bind, Task.bind]

/-- Nothing that unconfirmed SQL runs on the backend, at whatever depth, destroys data. -/
def Guarded (request : SqlRequest) (engine : Option Engine) : Prop :=
  (storeExecuteSql request engine false).Calls →
    ∃ statements, Sql.batch? engine request.sql = some statements ∧
      ∀ part ∈ Sql.partsOf statements, part.runs → ¬ part.Destroys

/-- Unconfirmed SQL is guarded just if no statement that is sent on has anything in it that is run
and destroys data. -/
theorem guarded_iff_none_inside (request : SqlRequest) (engine : Option Engine) :
    Guarded request engine ↔
      (request.validate = .ok () → ∀ statements, Sql.batch? engine request.sql = some statements →
        (∀ s ∈ statements, ¬ s.Destroys) →
          ∀ s ∈ statements, ∀ part ∈ s.inside true, part.runs → ¬ part.Destroys) := by
  rw [Guarded, storeExecuteSql_calls_iff, Sql.danger?_eq_none_iff]
  constructor
  · intro guarded valid statements read harmless s among part within
    obtain ⟨_, read', safe⟩ := guarded ⟨valid, statements, read, harmless⟩
    cases read.symm.trans read'
    exact safe part (Sql.mem_partsOf.mpr ⟨s, among, .inr within⟩)
  · rintro inside ⟨valid, statements, read, harmless⟩
    refine ⟨statements, read, fun part member runs => ?_⟩
    obtain ⟨s, among, rfl | within⟩ := Sql.mem_partsOf.mp member
    · exact harmless s among
    · exact inside valid statements read harmless s among part within runs

/-- A text is not guarded if the guard is silent about it and it runs something that destroys
data. -/
theorem not_guarded (written : Text.isAllBlank request.sql = false)
    (silent : Sql.danger? engine request.sql = none)
    (destroys : (Sql.batch? engine request.sql).any fun statements =>
      (Sql.partsOf statements).any fun part => part.runs && part.Destroys) :
    ¬ Guarded request engine := by
  intro guarded
  obtain ⟨statements, read, safe⟩ := guarded
    (storeExecuteSql_calls_iff.mpr ⟨validate_eq_ok_iff.mpr written, silent⟩)
  rw [read, Option.any_some, List.any_eq_true] at destroys
  obtain ⟨part, member, runs⟩ := destroys
  rw [Bool.and_eq_true, decide_eq_true_iff] at runs
  exact safe part member runs.1 runs.2

/-- An explanation that runs a delete of all rows, and a delete of all rows in a common table
expression, go to the backend unconfirmed. -/
theorem analyzed_and_nested_deletes_unguarded :
    ¬ Guarded ⟨"EXPLAIN ANALYZE DELETE FROM users"⟩ (some .postgres) ∧
      ¬ Guarded ⟨"WITH d AS (DELETE FROM users RETURNING *) SELECT * FROM d"⟩ (some .postgres) := by
  constructor
  · exact not_guarded (by decide +kernel) (by decide +kernel) (by decide +kernel)
  · exact not_guarded (by decide +kernel) (by decide +kernel) (by decide +kernel)

end Console

end DbConsole

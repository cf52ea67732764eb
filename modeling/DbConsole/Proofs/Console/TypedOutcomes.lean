import DbConsole.Console.Changes
import DbConsole.Console.Session

/-!
Errors that say of a cached value that it is of another kind than it is read as. No check of an input, no
answer of a backend and no store of a token comes to one.
-/
set_option autoImplicit false

namespace DbConsole

variable {α β : Type}

/-- The error says of a cached value that it is of another kind. -/
def Error.isMistyped : Error → Bool
  | .decode (.mistyped _) => true
  | _ => false

/-- The outcome is no such error. -/
def Typed (outcome : Except Error α) : Prop :=
  ∀ e, outcome = .error e → e.isMistyped = false

namespace Typed

theorem ok (a : α) : Typed (.ok a) := nofun

theorem error {e : Error} (other : e.isMistyped = false) : Typed (.error e : Except Error α) := by
  rintro _ ⟨⟩
  exact other

theorem map {outcome : Except Error α} (typed : Typed outcome) (f : α → β) : Typed (outcome.map f) := by
  cases outcome with
  | ok a => exact ok (f a)
  | error e => exact error (typed e rfl)

theorem bind {outcome : Except Error α} {f : α → Except Error β} (typed : Typed outcome)
    (rest : ∀ a, Typed (f a)) : Typed (outcome >>= f) := by
  cases outcome with
  | ok a => exact rest a
  | error e => exact error (typed e rfl)

/-- A check that is made only where there is something to be checked. -/
theorem ite {p : Prop} [Decidable p] {x y : Except Error α} (first : Typed x) (second : Typed y) :
    Typed (if p then x else y) := by
  split
  · exact first
  · exact second

end Typed

theorem typed_requireText (what text : String) : Typed (requireText what text) :=
  .ite (.error rfl) (.ok ())

theorem typed_of_column (column : ColumnSpec) : Typed column.validate :=
  (typed_requireText _ _).bind fun _ => .ite (.error rfl) (.ok ())

theorem typed_of_columns (seen : List String) (columns : List ColumnSpec) :
    Typed (TableSpec.validateColumns seen columns) := by
  induction columns generalizing seen with
  | nil => exact .ok ()
  | cons column rest ih =>
    exact (typed_of_column column).bind fun _ => .ite (.error rfl) (ih _)

theorem typed_of_spec (spec : TableSpec) : Typed spec.validate :=
  (typed_requireText _ _).bind fun _ => .ite (.error rfl) (typed_of_columns [] spec.columns)

theorem typed_of_alteration (change : Alteration) : Typed change.validate := by
  cases change with
  | renameTable newName => exact typed_requireText _ _
  | addColumn column => exact typed_of_column column
  | dropColumn name => exact typed_requireText _ _
  | modifyColumn oldName column => exact (typed_requireText _ _).bind fun _ => typed_of_column column
  | renameColumn oldName newName => exact (typed_requireText _ _).bind fun _ => typed_requireText _ _

theorem typed_of_query (query : PageQuery) : Typed query.validate :=
  .ite (.error rfl) (.ite (.error rfl) (.ite (.error rfl) (.ok ())))

theorem typed_of_sql (request : SqlRequest) : Typed request.validate :=
  .ite (.error rfl) (.ok ())

theorem typed_of_credentials (credentials : Credentials) : Typed credentials.validate := by
  refine (typed_requireText _ _).bind fun _ => .ite ?_ (.ok ())
  exact (typed_requireText _ _).bind fun _ => .ite (.error rfl) (typed_requireText _ _)

theorem typed_of_row (row : Row) (columns : List Column) (write : RowWrite) :
    Typed (checkRow row columns write) := by
  have cell (name : String) (cell : Cell) : Typed (checkCell columns name cell) := by
    unfold checkCell
    split
    · exact .error rfl
    · exact .ite (.error rfl) (.ite (.error rfl) (.ok ()))
  have cells (entries : List (String × Cell)) : Typed (checkCells columns entries) := by
    induction entries with
    | nil => exact .ok ()
    | cons entry rest ih => exact (cell entry.1 entry.2).bind fun _ => ih
  exact .ite (.error rfl) (cells row.entries)

theorem typed_rowId (table : String) (row : Row) (columns : List Column) :
    Typed (rowId table row columns) := by
  unfold rowId
  split
  · exact .error rfl
  · split
    · exact .error rfl
    · unfold RowId.ofCell
      split
      · exact .ite (.error rfl) (.ok _)
      · exact .ok _
      · exact .error rfl

theorem Reply.typed_read [Wire α] (request : String) (reply : Reply) : Typed (reply.read α request) := by
  have ofResult (envelope : Envelope α) : Typed envelope.result := by
    refine .ite (.error rfl) ?_
    split
    · exact .ok _
    · split
      · exact .ok _
      · exact .error rfl
  cases reply with
  | failed cause => exact .error rfl
  | cutShort => exact .error rfl
  | answered status text =>
    unfold Reply.read
    dsimp only
    split
    · exact ofResult _
    · exact .ite (.error rfl) (.error rfl)

namespace TokenStore

theorem typed_save (disk : Disk) (path : FilePath) (members : Dict Json) : Typed (save disk path members) := by
  unfold save
  split
  · exact .ok _
  · exact .error rfl

theorem typed_set (tokens : TokenStore) (token : String) : Typed (tokens.set token) := by
  cases tokens with
  | memory _ => exact .ok _
  | document disk path => exact typed_save _ _ _

theorem typed_clear (tokens : TokenStore) : Typed tokens.clear := by
  cases tokens with
  | memory _ => exact .ok _
  | document disk path => exact .ite (typed_save _ _ _) (.ok _)

end TokenStore

end DbConsole

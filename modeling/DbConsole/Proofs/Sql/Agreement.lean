import DbConsole.Proofs.Console.BatchSelection
import DbConsole.Proofs.Sql.Reach

/-!
Four looks at one batch of SQL agree: the guard of unconfirmed SQL, the tables that are dropped, the
tables that are renamed, and the scope. Each of them goes over the statements on its own. What the guard
warns of, and what the view has to follow, is never taken for a read.
-/
set_option autoImplicit false

namespace DbConsole

namespace Sql

/-! ### One statement -/

theorem DropTarget.danger?_ne_unrecognized (target : DropTarget) :
    target.danger? ≠ some .unrecognized := by
  cases target <;> intro same <;> cases same

/-- What can be read is told for what it is. -/
theorem Statement.danger?_ne_unrecognized (s : Statement) : s.danger? ≠ some .unrecognized := by
  cases s with
  | drop target names => exact target.danger?_ne_unrecognized
  | alterTable name changes =>
    rw [danger?]
    split <;> intro same <;> cases same
  | delete filtered within => cases filtered <;> intro same <;> cases same
  | update filtered within => cases filtered <;> intro same <;> cases same
  | _ =>
    intro same
    cases same

/-- The guard warns of statements that are known to write rows or to change the schema. -/
theorem Statement.kind_of_danger? {s : Statement} {danger : Danger} (warns : s.danger? = some danger) :
    s.kind = .dml ∨ s.kind = .ddl := by
  cases s with
  | drop target names => exact .inr rfl
  | alterTable name changes => exact .inr rfl
  | truncate => exact .inr rfl
  | delete filtered within => exact .inl rfl
  | update filtered within => exact .inl rfl
  | _ => cases warns

theorem Statement.of_mem_droppedTables {s : Statement} {table : String}
    (dropped : table ∈ s.droppedTables) : s.danger? = some .dropTable ∧ s.kind = .ddl := by
  cases s with
  | drop target names =>
    cases target with
    | table => exact ⟨rfl, rfl⟩
    | _ => cases dropped
  | _ => cases dropped

theorem Statement.of_mem_renamedTables {s : Statement} {names : String × String}
    (renamed : names ∈ s.renamedTables) : s.kind = .ddl ∨ s.kind = .other := by
  cases s with
  | alterTable name changes => exact .inl rfl
  | renameTables renames => exact .inr rfl
  | _ => cases renamed

/-! ### Batches -/

variable {engine : Option Engine} {text : String} {statements : List Statement}

theorem Scope.eq_schema_of_rank {scope : Scope} (widest : Scope.schema.rank ≤ scope.rank) :
    scope = .schema := by
  cases scope with
  | schema => rfl
  | _ => exact absurd widest (by decide)

/-- One statement that may change the schema makes the whole batch do so. -/
theorem scopeOf_eq_schema {s : Statement} (among : s ∈ statements) (changes : s.kind.scope = .schema) :
    scopeOf statements = .schema :=
  Scope.eq_schema_of_rank (changes ▸ kind_le_scopeOf among)

theorem droppedTables?_eq_none_iff : droppedTables? engine text = none ↔ batch? engine text = none :=
  Option.map_eq_none_iff

theorem renamedTables?_eq_none_iff : renamedTables? engine text = none ↔ batch? engine text = none :=
  Option.map_eq_none_iff

theorem danger?_of_batch (read : batch? engine text = some statements) :
    danger? engine text = statements.findSome? Statement.danger? := by
  rw [danger?, read]

theorem danger?_eq_unrecognized_iff :
    danger? engine text = some .unrecognized ↔ batch? engine text = none := by
  cases read : batch? engine text with
  | none => simp [danger?, read]
  | some statements =>
    refine iff_of_false (fun warns => ?_) (Option.some_ne_none _)
    rw [danger?_of_batch read] at warns
    obtain ⟨s, -, told⟩ := List.exists_of_findSome?_eq_some warns
    exact s.danger?_ne_unrecognized told

theorem scope_of_unread (unread : batch? engine text = none) : scope engine text = .schema := by
  rw [scope, unread]

theorem of_drops {dropped : List String} (drops : droppedTables? engine text = some dropped)
    (some_ : dropped ≠ []) : (danger? engine text).isSome = true ∧ scope engine text = .schema := by
  obtain ⟨statements, read, rfl⟩ := Option.map_eq_some_iff.mp drops
  obtain ⟨table, mem⟩ := List.exists_mem_of_ne_nil _ some_
  obtain ⟨s, among, here⟩ := List.mem_flatMap.mp mem
  obtain ⟨warns, changes⟩ := Statement.of_mem_droppedTables here
  rw [danger?_of_batch read, scope_of_batch read, List.findSome?_isSome_iff]
  exact ⟨⟨s, among, by rw [warns]; rfl⟩, scopeOf_eq_schema among (by rw [changes]; rfl)⟩

theorem scope_of_renames {renamed : List (String × String)}
    (renames : renamedTables? engine text = some renamed) (some_ : renamed ≠ []) :
    scope engine text = .schema := by
  obtain ⟨statements, read, rfl⟩ := Option.map_eq_some_iff.mp renames
  obtain ⟨names, mem⟩ := List.exists_mem_of_ne_nil _ some_
  obtain ⟨s, among, here⟩ := List.mem_flatMap.mp mem
  rw [scope_of_batch read]
  rcases Statement.of_mem_renamedTables here with changes | changes
  · exact scopeOf_eq_schema among (by rw [changes]; rfl)
  · exact scopeOf_eq_schema among (by rw [changes]; rfl)

/-- What needs to be confirmed is not taken for a read. -/
theorem scope_ne_readOnly_of_danger (warns : (danger? engine text).isSome = true) :
    scope engine text ≠ .readOnly := by
  cases read : batch? engine text with
  | none => rw [scope_of_unread read]; exact nofun
  | some statements =>
    obtain ⟨danger, told⟩ := Option.isSome_iff_exists.mp (danger?_of_batch read ▸ warns)
    obtain ⟨s, among, here⟩ := List.exists_of_findSome?_eq_some told
    rw [scope_of_batch read]
    intro reads
    have least := reads ▸ kind_le_scopeOf among
    rcases Statement.kind_of_danger? here with kind | kind
    · rw [kind] at least
      exact absurd least (by decide)
    · rw [kind] at least
      exact absurd least (by decide)

/-- Every scope but that of reads touches all rows. -/
theorem Scope.touches_rows {scope : Scope} (writes : scope ≠ .readOnly) (table : String)
    (query : PageQuery) : scope.Touches (.rows table query) := by
  cases scope with
  | readOnly => exact absurd rfl writes
  | data => exact ⟨table, query, rfl⟩
  | schema => trivial

end Sql

namespace Console

/-- A batch of reads leaves the view where it is. -/
theorem Follows.of_readOnly {request : SqlRequest} {engine : Option Engine} (confirmed : Bool)
    (reads : Sql.scope engine request.sql = .readOnly) :
    Follows id (Console.executing request confirmed engine) := by
  cases read : Sql.batch? engine request.sql with
  | none =>
    rw [Sql.scope_of_unread read] at reads
    cases reads
  | some statements =>
    have nothing_dropped : Sql.drops statements = [] := by
      by_contra some_
      have drops : Sql.droppedTables? engine request.sql = some (Sql.drops statements) := by
        rw [Sql.droppedTables?, read]
        rfl
      cases reads.symm.trans (Sql.of_drops drops some_).2
    have nothing_renamed : Sql.renames statements = [] := by
      by_contra some_
      have renames : Sql.renamedTables? engine request.sql = some (Sql.renames statements) := by
        rw [Sql.renamedTables?, read]
        rfl
      cases reads.symm.trans (Sql.scope_of_renames renames some_)
    have follows : Follows _ (Console.executing request confirmed engine) := .executing read
    rw [nothing_dropped, nothing_renamed] at follows
    exact follows

/-- The four looks at a batch agree: on whether it can be read at all, on what it drops and on what it
renames. So when a batch has been run that had to be confirmed, or that does not leave the view alone,
no rows are trusted any more. -/
theorem sql_analyses_agree (engine : Option Engine) (text : String) :
    (Sql.danger? engine text = some .unrecognized ↔ Sql.droppedTables? engine text = none) ∧
    (Sql.droppedTables? engine text = none ↔ Sql.renamedTables? engine text = none) ∧
    (Sql.danger? engine text = some .unrecognized → Sql.scope engine text = .schema) ∧
    (∀ dropped, Sql.droppedTables? engine text = some dropped → dropped ≠ [] →
      (Sql.danger? engine text).isSome = true ∧ Sql.scope engine text = .schema) ∧
    ((Sql.danger? engine text).isSome = true → Sql.scope engine text ≠ .readOnly) ∧
    (∀ renamed, Sql.renamedTables? engine text = some renamed → renamed ≠ [] →
      Sql.scope engine text = .schema) ∧
    ∀ confirmed c c', Executes ⟨text⟩ engine confirmed c c' →
      (Sql.danger? engine text).isSome = true ∨ ¬ Follows id (executing ⟨text⟩ confirmed engine) →
        ∀ table query, c'.cache.trusted? (.rows table query) = none := by
  refine ⟨Sql.danger?_eq_unrecognized_iff.trans Sql.droppedTables?_eq_none_iff.symm,
    Sql.droppedTables?_eq_none_iff.trans Sql.renamedTables?_eq_none_iff.symm,
    fun unread => Sql.scope_of_unread (Sql.danger?_eq_unrecognized_iff.mp unread),
    fun dropped => Sql.of_drops, Sql.scope_ne_readOnly_of_danger, fun renamed => Sql.scope_of_renames,
    ?_⟩
  intro confirmed c c' executes matters table query
  have writes : Sql.scope engine text ≠ .readOnly := by
    rcases matters with warns | steers
    · exact Sql.scope_ne_readOnly_of_danger warns
    · exact fun reads => steers (.of_readOnly confirmed reads)
  exact (executes.trusted? _).trans (if_pos (Sql.Scope.touches_rows writes table query))

/-- A batch that drops a table, in a dialect that is known. -/
theorem sql_analyses_agree_drop :
    Sql.droppedTables? (some .postgres) "DROP TABLE orders" = some ["orders"] ∧
    Sql.scope (some .postgres) "DROP TABLE orders" = .schema ∧
    (∃ c c', Executes ⟨"DROP TABLE orders"⟩ (some .postgres) true c c' ∧
      (Sql.danger? (some .postgres) "DROP TABLE orders").isSome = true) ∧
    ∀ c c', Executes ⟨"DROP TABLE orders"⟩ (some .postgres) true c c' →
      ∀ table query, c'.cache.trusted? (.rows table query) = none := by
  obtain ⟨-, -, -, drops, -, -, forgets⟩ := sql_analyses_agree (some .postgres) "DROP TABLE orders"
  have dropped : Sql.droppedTables? (some .postgres) "DROP TABLE orders" = some ["orders"] := by
    decide +kernel
  obtain ⟨warns, schema⟩ := drops _ dropped (List.cons_ne_nil _ _)
  obtain ⟨c, -⟩ := exists_trusting .tables
  obtain ⟨c', executes⟩ := exists_executes ⟨"DROP TABLE orders"⟩ (some .postgres) c (by decide +kernel)
  exact ⟨dropped, schema, ⟨c, c', executes, warns⟩,
    fun c c' executes => forgets true c c' executes (.inl warns)⟩

end Console

end DbConsole

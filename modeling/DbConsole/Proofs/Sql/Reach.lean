import DbConsole.Proofs.Cache.Trust
import DbConsole.Proofs.Sql.Guard

/-!
What the scope of a batch says about the statements in it, and about the cached reads that survive
it. The scope is taken from the outermost forms, below which writes can stand.
-/
set_option autoImplicit false

namespace DbConsole

namespace Sql

theorem Scope.rank_join (a b : Scope) : (a.join b).rank = max a.rank b.rank := by
  cases a <;> cases b <;> rfl

/-- The scope that a statement calls for by what it does itself: rows are written, or the schema is
changed. -/
def Statement.reach : Statement → Scope
  | .insert _ => .data
  | .update _ _ => .data
  | .delete _ _ => .data
  | .merge _ => .data
  | .copy _ => .data
  | .drop _ _ => .schema
  | .alterTable _ _ => .schema
  | .truncate => .schema
  | .renameTables _ => .schema
  | .schema _ _ => .schema
  | _ => .readOnly

def Part.reach : Part → Scope
  | .statement _ s => s.reach
  | .select _ makesTable => if makesTable then .schema else .readOnly

theorem Statement.reach_le_kind (s : Statement) : s.reach.rank ≤ s.kind.scope.rank := by
  cases s with
  | explain runs within operand => exact Nat.zero_le _
  | _ => simp [reach, kind, Kind.scope, Scope.rank]

/-- What stands in a statement, short of the statements whose kind is taken for its own: those that
an explanation explains. -/
def Statement.beneath (runs : Bool) : Statement → List Part
  | .explain runsOperand within operand =>
    Query.partsOf runs within ++ operand.beneath (runs && runsOperand)
  | s => s.inside runs

theorem Statement.mem_inside_of_beneath (s : Statement) (runs : Bool) (part : Part)
    (beneath : part ∈ s.beneath runs) : part ∈ s.inside runs := by
  fun_induction Statement.beneath runs s with
  | case1 runs runsOperand within operand ih =>
    rw [Statement.inside]
    rcases List.mem_append.mp beneath with option | below
    · exact List.mem_append_left _ option
    · exact List.mem_append_right _ (List.mem_cons_of_mem _ (ih below))
  | case2 runs s outermost => exact beneath

theorem Statement.beneath_or_reach_le (s : Statement) (runs : Bool) (part : Part)
    (within : part ∈ s.inside runs) :
    part ∈ s.beneath runs ∨ part.reach.rank ≤ s.kind.scope.rank := by
  fun_induction Statement.beneath runs s with
  | case1 runs runsOperand options operand ih =>
    rw [Statement.inside, List.mem_append, List.mem_cons] at within
    rcases within with option | rfl | below
    · exact .inl (List.mem_append_left _ option)
    · exact .inr operand.reach_le_kind
    · exact (ih below).imp (List.mem_append_right _) id
  | case2 runs s outermost => exact .inl within

theorem rank_foldl_join (scopes : List Scope) (start : Scope) :
    start.rank ≤ (scopes.foldl Scope.join start).rank ∧
      ∀ scope ∈ scopes, scope.rank ≤ (scopes.foldl Scope.join start).rank := by
  induction scopes generalizing start with
  | nil => simp
  | cons first rest ih =>
    obtain ⟨wider, all⟩ := ih (start.join first)
    rw [Scope.rank_join] at wider
    refine ⟨by rw [List.foldl_cons]; omega, fun scope among => ?_⟩
    rcases List.mem_cons.mp among with rfl | later
    · rw [List.foldl_cons]; omega
    · exact all scope later

/-- No statement's kind calls for more than the scope of its batch. -/
theorem kind_le_scopeOf {statements : List Statement} {s : Statement} (among : s ∈ statements) :
    s.kind.scope.rank ≤ (scopeOf statements).rank :=
  (rank_foldl_join _ .readOnly).2 _ (List.mem_map_of_mem among)

/-- What calls for more than the scope of its batch stands below the outermost forms. -/
theorem reach_le_or_beneath {statements : List Statement} {part : Part}
    (member : part ∈ partsOf statements) :
    part.reach.rank ≤ (scopeOf statements).rank ∨ ∃ s ∈ statements, part ∈ s.beneath true := by
  obtain ⟨s, among, rfl | within⟩ := mem_partsOf.mp member
  · exact Or.inl (s.reach_le_kind.trans (kind_le_scopeOf among))
  · rcases s.beneath_or_reach_le true part within with beneath | covered
    · exact Or.inr ⟨s, among, beneath⟩
    · exact Or.inl (covered.trans (kind_le_scopeOf among))

theorem mem_partsOf_of_beneath {statements : List Statement} {s : Statement} {part : Part}
    (among : s ∈ statements) (beneath : part ∈ s.beneath true) : part ∈ partsOf statements :=
  mem_partsOf.mpr ⟨s, among, .inr (s.mem_inside_of_beneath true part beneath)⟩

/-- Nothing in the batch, at whatever depth, calls for more than its scope. -/
def ScopeSound (engine : Option Engine) (text : String) : Prop :=
  ∀ statements, batch? engine text = some statements →
    ∀ part ∈ partsOf statements, part.reach.rank ≤ (scope engine text).rank

theorem scope_of_batch {engine : Option Engine} {text : String} {statements : List Statement}
    (read : batch? engine text = some statements) : scope engine text = scopeOf statements := by
  rw [scope, read]

/-- The scope is sound just if nothing below the outermost forms calls for more. -/
theorem scopeSound_iff (engine : Option Engine) (text : String) :
    ScopeSound engine text ↔ ∀ statements, batch? engine text = some statements →
      ∀ s ∈ statements, ∀ part ∈ s.beneath true,
        part.reach.rank ≤ (scopeOf statements).rank := by
  constructor
  · intro sound statements read s among part beneath
    rw [← scope_of_batch read]
    exact sound statements read part (mem_partsOf_of_beneath among beneath)
  · intro below statements read part member
    rw [scope_of_batch read]
    rcases reach_le_or_beneath member with covered | ⟨s, among, beneath⟩
    · exact covered
    · exact below statements read s among part beneath

/-- The cached reads that something of this scope can make wrong. -/
def Scope.Touches : Scope → Key → Prop
  | .readOnly, _ => False
  | .data, key => ∃ table query, key = .rows table query
  | .schema, _ => True

theorem Scope.Touches.mono {narrow wide : Scope} {key : Key} (touched : narrow.Touches key)
    (le : narrow.rank ≤ wide.rank) : wide.Touches key := by
  cases narrow <;> cases wide <;> simp_all [Touches, rank]

theorem covers_ofScope_iff (scope : Scope) (key : Key) :
    (Plan.ofScope scope).covers key ↔ scope.Touches key := by
  cases scope with
  | readOnly => simp [Plan.ofScope, Plan.covers, Plan.empty, Scope.Touches]
  | data =>
    cases key <;>
      simp [Plan.ofScope, Plan.covers, Plan.empty, Plan.add, Filter.covers, Scope.Touches]
  | schema => simp [Plan.ofScope, Plan.covers, Plan.empty, Plan.add, Filter.covers, Scope.Touches]

instance (scope : Scope) (key : Key) : Decidable (scope.Touches key) :=
  decidable_of_iff _ (covers_ofScope_iff scope key)

/-- A wider scope touches a read that a narrower one leaves alone. -/
theorem Scope.exists_touches_of_lt {narrow wide : Scope} (lt : narrow.rank < wide.rank) :
    ∃ key, wide.Touches key ∧ ¬ narrow.Touches key := by
  cases wide with
  | readOnly => simp [rank] at lt
  | data =>
    refine ⟨.rows "" ⟨none, none, none, none⟩, ⟨_, _, rfl⟩, fun touched => ?_⟩
    cases narrow <;> simp [rank, Touches] at lt touched
  | schema =>
    refine ⟨.tables, trivial, fun touched => ?_⟩
    cases narrow <;> simp [rank, Touches] at lt touched

end Sql

namespace Console

/-- SQL that is run to its end: at the first state its reply is there, and at the second one it has
brought its result. -/
def Executes (request : SqlRequest) (engine : Option Engine) (confirmed : Bool) (c c' : Console) :
    Prop :=
  ∃ question next reply result,
    storeExecuteSql request engine confirmed = .call question next ∧
      (next reply).advance c = (c', .done (.ok result))

/-- A change that the backend has agreed to goes on by marking what it has touched. -/
theorem advance_concluding {α : Type} {plan : Plan} {outcome : Except Error α} {c c' : Console}
    {result : α} (ends : (concluding plan outcome).advance c = (c', .done (.ok result))) :
    c'.cache = c.cache.apply plan := by
  cases outcome with
  | error e => cases ends
  | ok a =>
    cases ends
    rfl

theorem Executes.cache {request : SqlRequest} {engine : Option Engine} {confirmed : Bool}
    {c c' : Console} (executes : Executes request engine confirmed c c') :
    c'.cache = c.cache.apply (.ofScope (Sql.scope engine request.sql)) := by
  obtain ⟨question, next, reply, result, calls, ends⟩ := executes
  unfold storeExecuteSql at calls
  cases valid : request.validate with
  | error e => rw [valid] at calls; cases calls
  | ok u =>
    simp only [valid] at calls
    split at calls
    · cases calls
    · rw [sendSql, valid] at calls
      cases calls
      exact advance_concluding ends

/-- Which cached reads are still trusted when SQL has been run. -/
theorem Executes.trusted? {request : SqlRequest} {engine : Option Engine} {confirmed : Bool}
    {c c' : Console} (executes : Executes request engine confirmed c c') (key : Key) :
    c'.cache.trusted? key =
      if (Sql.scope engine request.sql).Touches key then none else c.cache.trusted? key := by
  rw [executes.cache, Cache.apply, Cache.trusted?_invalidate]
  exact if_congr (Sql.covers_ofScope_iff _ key) rfl rfl

/-- Only a text that is not blank is run. -/
theorem Executes.written {request : SqlRequest} {engine : Option Engine} {confirmed : Bool}
    {c c' : Console} (executes : Executes request engine confirmed c c') :
    Text.isAllBlank request.sql = false := by
  obtain ⟨question, next, reply, result, calls, ends⟩ := executes
  rw [← validate_eq_ok_iff]
  unfold storeExecuteSql at calls
  cases valid : request.validate with
  | error e => rw [valid] at calls; cases calls
  | ok u => rfl

/-- Some reply tells of a success. -/
theorem exists_reply_ok :
    ∃ reply : Reply, ∀ name, ∃ result, reply.read SqlResult name = .ok result := by
  obtain ⟨text, decoded⟩ : ∃ text, (Wire.decode (Envelope SqlResult) text).toOption.any
      fun e => e.result.toOption.isSome :=
    ⟨"\x7b\"success\":true,\"data\":\x7b\x7d\x7d", by decide +kernel⟩
  cases read : Wire.decode (Envelope SqlResult) text with
  | error fault => simp [read, Except.toOption] at decoded
  | ok e =>
    cases ends : e.result with
    | error fault => simp [read, ends, Except.toOption] at decoded
    | ok result =>
      exact ⟨.answered ⟨200⟩ (some text), fun name => ⟨result, by simp [Reply.read, read, ends]⟩⟩

/-- Confirmed SQL is one request, behind which the change is concluded. -/
theorem storeExecuteSql_confirmed {request : SqlRequest} {engine : Option Engine}
    (written : Text.isAllBlank request.sql = false) :
    ∃ question name, storeExecuteSql request engine true = .call question fun reply =>
      concluding (.ofScope (Sql.scope engine request.sql)) (reply.read SqlResult name) := by
  rw [storeExecuteSql, sendSql, validate_eq_ok_iff.mpr written]
  exact ⟨_, _, rfl⟩

theorem exists_executes (request : SqlRequest) (engine : Option Engine) (c : Console)
    (written : Text.isAllBlank request.sql = false) :
    ∃ c', Executes request engine true c c' := by
  obtain ⟨question, name, calls⟩ := @storeExecuteSql_confirmed request engine written
  obtain ⟨reply, succeeds⟩ := exists_reply_ok
  obtain ⟨result, read⟩ := succeeds name
  refine ⟨((concluding (.ofScope (Sql.scope engine request.sql)) (.ok result)).advance c).1,
    question, _, reply, result, calls, ?_⟩
  rw [read]
  rfl

/-- Every key has a value that is trusted in some state. -/
theorem exists_trusting (key : Key) :
    ∃ (c : Console) (v : Payload), c.cache.trusted? key = some v := by
  have created : (create "http://localhost" (.memory none) ⟨0, 0, 0, 0⟩ none).toOption.isSome := by
    decide +kernel
  obtain ⟨c, -⟩ := Option.isSome_iff_exists.mp created
  let entry : Entry Payload := ⟨some (.tables []), none, false, 0, none, none, 0⟩
  refine ⟨{ c with cache := c.cache.setEntry key entry }, .tables [], ?_⟩
  rw [Cache.trusted?, Cache.lookup?_setEntry_self]
  rfl

/-- No read that anything in the SQL has touched is trusted when the SQL has been run. -/
def TouchedForgotten (engine : Option Engine) (text : String) : Prop :=
  ∀ confirmed c c', Executes ⟨text⟩ engine confirmed c c' →
    ∀ statements, Sql.batch? engine text = some statements →
      ∀ part ∈ Sql.partsOf statements, part.runs →
        ∀ key, part.reach.Touches key → c'.cache.trusted? key = none

theorem touchedForgotten_iff (engine : Option Engine) (text : String) :
    TouchedForgotten engine text ↔
      (Text.isAllBlank text = false → ∀ statements, Sql.batch? engine text = some statements →
        ∀ s ∈ statements, ∀ part ∈ s.beneath true, part.runs →
          part.reach.rank ≤ (Sql.scopeOf statements).rank) := by
  constructor
  · intro forgotten written statements read s among part beneath runs
    by_contra exceeds
    obtain ⟨key, touched, untouched⟩ := Sql.Scope.exists_touches_of_lt (Nat.lt_of_not_le exceeds)
    obtain ⟨c, v, trusted⟩ := exists_trusting key
    obtain ⟨c', executes⟩ := exists_executes ⟨text⟩ engine c written
    have lost := forgotten true c c' executes statements read part
      (Sql.mem_partsOf_of_beneath among beneath) runs key touched
    rw [executes.trusted?, Sql.scope_of_batch read, if_neg untouched, trusted] at lost
    cases lost
  · intro below confirmed c c' executes statements read part member runs key touched
    have covered : part.reach.rank ≤ (Sql.scopeOf statements).rank := by
      rcases Sql.reach_le_or_beneath member with covered | ⟨s, among, beneath⟩
      · exact covered
      · exact below executes.written statements read s among part beneath runs
    rw [executes.trusted?, Sql.scope_of_batch read, if_pos (touched.mono covered)]

/-- The scope of SQL is sound just if nothing below the outermost forms calls for more; and what
the SQL has touched is forgotten just if nothing below them that runs does. -/
theorem scope_sound_and_forgotten_iff_none_beneath (engine : Option Engine) (text : String) :
    (Sql.ScopeSound engine text ↔
      ∀ statements, Sql.batch? engine text = some statements →
        ∀ s ∈ statements, ∀ part ∈ s.beneath true,
          part.reach.rank ≤ (Sql.scopeOf statements).rank) ∧
    (TouchedForgotten engine text ↔
      (Text.isAllBlank text = false → ∀ statements, Sql.batch? engine text = some statements →
        ∀ s ∈ statements, ∀ part ∈ s.beneath true, part.runs →
          part.reach.rank ≤ (Sql.scopeOf statements).rank)) :=
  ⟨Sql.scopeSound_iff engine text, touchedForgotten_iff engine text⟩

/-- A text whose scope falls short of some part of it. -/
theorem not_scopeSound {engine : Option Engine} {text : String}
    (exceeds : (Sql.batch? engine text).any fun statements =>
      (Sql.partsOf statements).any fun part => (Sql.scope engine text).rank < part.reach.rank) :
    ¬ Sql.ScopeSound engine text := by
  intro sound
  cases read : Sql.batch? engine text with
  | none => simp [read] at exceeds
  | some statements =>
    rw [read, Option.any_some, List.any_eq_true] at exceeds
    obtain ⟨part, member, lt⟩ := exceeds
    exact Nat.not_lt.mpr (sound statements read part member) (of_decide_eq_true lt)

/-- An insert behind common table expressions, a delete in one, and a `SELECT` that makes a table
all count as reads. -/
theorem hidden_writes_count_as_reads :
    ¬ Sql.ScopeSound (some .postgres) "WITH c AS (SELECT 1) INSERT INTO t SELECT * FROM c" ∧
      ¬ Sql.ScopeSound (some .postgres)
        "WITH d AS (DELETE FROM t WHERE id = 1 RETURNING *) SELECT * FROM d" ∧
      ¬ Sql.ScopeSound (some .postgres) "SELECT * INTO t2 FROM t" := by
  refine ⟨not_scopeSound ?_, not_scopeSound ?_, not_scopeSound ?_⟩
  · decide +kernel
  · decide +kernel
  · decide +kernel

end Console

end DbConsole

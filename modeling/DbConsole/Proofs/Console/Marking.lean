import DbConsole.Proofs.Cache.Ledger
import DbConsole.Proofs.Console.Life
import DbConsole.Proofs.Sql.Reach

/-!
What exactly a change marks. The visit in which a change comes to its end with success marks the entries
that it touches, each of them once, and leaves all others as they were; no other visit to it marks any.
-/
set_option autoImplicit false

namespace DbConsole

/-! ### Entries that are not marked -/

/-- What an entry says, and how far it can be trusted. -/
def Entry.standing {V : Type} (e : Entry V) : Option V × Option Error × Bool × Nat :=
  (e.value, e.lastError, e.invalidated, e.generation)

namespace Cache

variable {V J : Type} {c c' c'' : Cache V J}

/-- Every entry says what it said and can be trusted as far. -/
def Unmarked (c c' : Cache V J) : Prop :=
  ∀ key e, c.lookup? key = some e → (c'.lookup? key).map Entry.standing = some e.standing

theorem Unmarked.refl (c : Cache V J) : c.Unmarked c :=
  fun _ _ found => congrArg (Option.map Entry.standing) found

theorem Unmarked.trans (first : c.Unmarked c') (second : c'.Unmarked c'') : c.Unmarked c'' := by
  intro key e found
  obtain ⟨e', found', same⟩ := Option.map_eq_some_iff.mp (first key e found)
  rw [second key e' found', same]

theorem Unmarked.read (c : Cache V J) (now : Nat) (key : Key) (policy : FetchPolicy) (job : J) :
    c.Unmarked (c.read now key policy job).1 := by
  intro k e found
  by_cases here : key = k
  · subst here
    have same : (c.entryForRead now key).standing = e.standing := by
      rw [entryForRead, found]
      rfl
    obtain ⟨_, read⟩ := c.exists_lookup?_read_self now key policy job
    rw [read, ← same]
    rfl
  · rw [lookup?_read_of_ne policy here, found]
    rfl

/-- As many entries are covered as there are keys that are covered and have one. -/
theorem coveredCount_eq_ncard (once : (c.entries.map Prod.fst).Nodup) (filters : List Filter) :
    c.coveredCount filters =
      {key | isCovered filters key = true ∧ (c.lookup? key).isSome}.ncard := by
  let covered := (c.entries.filter fun p => isCovered filters p.1).map Prod.fst
  have distinct : covered.Nodup := once.sublist (List.filter_sublist.map Prod.fst)
  have same : {key | isCovered filters key = true ∧ (c.lookup? key).isSome} =
      (covered.toFinset : Set Key) := by
    ext key
    have there : (c.lookup? key).isSome ↔ ∃ e, (key, e) ∈ c.entries := by
      simp [lookup?]
    simp [covered, there, and_comm]
  rw [same, Set.ncard_coe_finset, List.toFinset_card_of_nodup distinct, coveredCount,
    List.countP_eq_length_filter, List.length_map]

theorem Event.nodup_keys (e : Event V J) (once : (c.entries.map Prod.fst).Nodup) :
    ((e.apply c).entries.map Prod.fst).Nodup := by
  cases e with
  | read now key policy job =>
    change ((c.read now key policy job).1.entries.map Prod.fst).Nodup
    rcases read_cache c now key policy job with same | ⟨_, same⟩ <;> rw [same]
    · exact nodup_keys_setIn key _ _ once
    · exact nodup_keys_setIn key _ _ once
  | land now f outcome =>
    change ((c.record now f outcome).entries.map Prod.fst).Nodup
    rcases record_cases c now f outcome with ⟨e, _, _, _, _, same⟩ | ⟨_, same⟩ <;> rw [same]
    · exact nodup_keys_setIn f.key _ _ once
    · exact once
  | invalidate filters =>
    change ((c.invalidate filters).entries.map Prod.fst).Nodup
    rwa [keys_invalidate]
  | clear => exact List.nodup_nil
  | collect now => exact once.sublist (List.filter_sublist.map Prod.fst)
  | leave reader => exact once

end Cache

@[simp] theorem Plan.covers_add (p : Plan) (f : Filter) (key : Key) :
    (p.add f).covers key = (p.covers key || f.covers key) := by
  unfold Plan.add
  split
  · rename_i member
    have covers : f.covers key = true → p.covers key = true := fun covers =>
      List.any_eq_true.mpr ⟨f, member, covers⟩
    cases found : f.covers key with
    | false => rw [Bool.or_false]
    | true => rw [covers found, Bool.or_true]
  · simp [Plan.covers]

namespace Console

variable {α β : Type} {plan : Plan} {ok : α → Prop} {ok' : β → Prop}

/-! ### How a change comes to its end -/

/-- The task has nothing to wait for any more and leaves the cache alone. -/
def RunsOut : ConsoleTask α → Prop
  | .done _ => True
  | .act update next => (∀ c, (update c).cache = c.cache) ∧ ∀ c, RunsOut (next c)
  | _ => False

/-- The task fails, or marks what the plan covers as the last thing that it waits for. -/
def MarksLast (plan : Plan) (ok : α → Prop) : ConsoleTask α → Prop
  | .done a => ¬ ok a
  | .act update next => (∀ c, (update c).cache = c.cache.apply plan) ∧ ∀ c, RunsOut (next c)
  | .wait _ next => MarksLast plan ok next
  | _ => False

/-- The task fails, or asks the backend once before it marks anything. -/
def AsksFirst (plan : Plan) (ok : α → Prop) : ConsoleTask α → Prop
  | .done a => ¬ ok a
  | .act update next =>
    (∀ c : Console, c.cache.Unmarked (update c).cache) ∧ ∀ c, AsksFirst plan ok (next c)
  | .wait _ next => AsksFirst plan ok next
  | .call _ next => ∀ reply, MarksLast plan ok (next reply)
  | .sleep _ next => AsksFirst plan ok next

theorem RunsOut.bind {t : ConsoleTask α} {k : α → ConsoleTask β} (out : RunsOut t)
    (rest : ∀ a, RunsOut (k a)) : RunsOut (t.bind k) := by
  induction t with
  | done a => exact rest a
  | act update next ih => exact ⟨out.1, fun c => ih c (out.2 c)⟩
  | _ => exact out.elim

theorem RunsOut.advanceThrough {t : ConsoleTask α} (out : RunsOut t) (waits : Nat) (c : Console) :
    (∃ a, (t.advanceThrough waits c).2 = .done a) ∧ (t.advanceThrough waits c).1.cache = c.cache := by
  induction t generalizing c with
  | done a =>
    rw [Task.advanceThrough_done]
    exact ⟨⟨a, rfl⟩, rfl⟩
  | act update next ih =>
    rw [Task.advanceThrough_act, ← out.1 c]
    exact ih c (out.2 c) (update c)
  | _ => exact out.elim

/-- What comes behind a task: it ends at once where that has failed, and runs out in any case. -/
structure Finishes (ok : α → Prop) (ok' : β → Prop) (k : α → ConsoleTask β) : Prop where
  fails : ∀ a, ¬ ok a → ∃ b, k a = .done b ∧ ¬ ok' b
  out : ∀ a, RunsOut (k a)

/-- The result is only told in other words. -/
theorem Finishes.map {f : α → β} (implies : ∀ a, ok' (f a) → ok a) :
    Finishes ok ok' fun a => .done (f a) :=
  ⟨fun a failed => ⟨f a, rfl, fun succeeded => failed (implies a succeeded)⟩, fun _ => trivial⟩

namespace MarksLast

theorem bind {t : ConsoleTask α} {k : α → ConsoleTask β} (marks : MarksLast plan ok t)
    (finishes : Finishes ok ok' k) : MarksLast plan ok' (t.bind k) := by
  induction t with
  | done a =>
    obtain ⟨b, same, fails⟩ := finishes.fails a marks
    change MarksLast plan ok' (k a)
    rw [same]
    exact fails
  | act update next _ => exact ⟨marks.1, fun c => (marks.2 c).bind finishes.out⟩
  | wait ready next ih => exact ih marks
  | _ => exact marks.elim

theorem concluding (outcome : Except Error α) :
    MarksLast plan Succeeds (Console.concluding plan outcome) := by
  cases outcome with
  | error e => exact fun ⟨a, same⟩ => by cases same
  | ok a => exact ⟨fun _ => rfl, fun _ => trivial⟩

/-- A visit stops before the marking, or goes on to the end. -/
theorem advanceThrough {t : ConsoleTask α} (marks : MarksLast plan ok t) (waits : Nat)
    (c : Console) :
    ((t.advanceThrough waits c).1 = c ∧ MarksLast plan ok (t.advanceThrough waits c).2) ∨
      (∃ a, (t.advanceThrough waits c).2 = .done a) ∧
        (t.advanceThrough waits c).1.cache = c.cache.apply plan := by
  induction t generalizing waits with
  | done a =>
    rw [Task.advanceThrough_done]
    exact .inl ⟨rfl, marks⟩
  | act update next _ =>
    rw [Task.advanceThrough_act, ← marks.1 c]
    exact .inr ((marks.2 c).advanceThrough waits (update c))
  | wait ready next ih =>
    rcases Task.advanceThrough_wait waits c ready next with same | ⟨_, fewer, same⟩ <;> rw [same]
    · exact .inl ⟨rfl, marks⟩
    · exact ih marks fewer
  | _ => exact marks.elim

end MarksLast

namespace AsksFirst

theorem bind {t : ConsoleTask α} {k : α → ConsoleTask β} (asks : AsksFirst plan ok t)
    (finishes : Finishes ok ok' k) : AsksFirst plan ok' (t.bind k) := by
  induction t with
  | done a =>
    obtain ⟨b, same, fails⟩ := finishes.fails a asks
    change AsksFirst plan ok' (k a)
    rw [same]
    exact fails
  | act update next ih => exact ⟨asks.1, fun c => ih c (asks.2 c)⟩
  | wait ready next ih => exact ih asks
  | call question next _ => exact fun reply => (asks reply).bind finishes
  | sleep time next ih => exact ih asks

/-- What asks nothing and marks nothing may come first. -/
theorem behind {t : ConsoleTask β} {k : β → ConsoleTask α} (silent : Silent t)
    (unmarked : t.Within fun c c' : Console => c.cache.Unmarked c'.cache)
    (rest : ∀ b, AsksFirst plan ok (k b)) : AsksFirst plan ok (t.bind k) := by
  induction t with
  | done b => exact rest b
  | act update next ih => exact ⟨unmarked.1, fun c => ih c (silent c) (unmarked.2 c)⟩
  | wait ready next ih => exact ih silent unmarked
  | call question next _ => exact silent.elim
  | sleep time next ih => exact ih silent unmarked

theorem failure (e : Error) :
    AsksFirst plan Succeeds (.done (.error e) : ConsoleTask (Except Error α)) :=
  fun ⟨a, same⟩ => by cases same

theorem concluding {t : ConsoleTask (Except Error α)} (request : IsRequest t) :
    AsksFirst plan Succeeds (t.bind (Console.concluding plan)) := by
  rcases request with ⟨question, answer, same⟩ | ⟨e, same⟩ <;> rw [same]
  · exact fun reply => .concluding (answer reply)
  · exact failure e

theorem advanceThrough {t : ConsoleTask α} (asks : AsksFirst plan ok t) (waits : Nat)
    (c : Console) :
    c.cache.Unmarked (t.advanceThrough waits c).1.cache ∧
      AsksFirst plan ok (t.advanceThrough waits c).2 := by
  refine Task.advanceBy_keeps (fun (c' : Console) t => c.cache.Unmarked c'.cache ∧
    AsksFirst plan ok t) ?_ ?_ ⟨.refl _, asks⟩ _
  · rintro c' update next ⟨unmarked, asks⟩
    exact ⟨unmarked.trans (asks.1 c'), asks.2 c'⟩
  · exact fun _ _ _ held => held

end AsksFirst

/-- The task has yet to mark what the plan covers, or has failed. -/
def Unfinished (plan : Plan) (ok : α → Prop) (t : ConsoleTask α) : Prop :=
  AsksFirst plan ok t ∨ MarksLast plan ok t

namespace Unfinished

variable {t : ConsoleTask α}

theorem not_ok {a : α} (unfinished : Unfinished plan ok (.done a)) : ¬ ok a :=
  unfinished.elim id id

/-- A visit marks nothing, or marks what the plan covers and goes on to the end. -/
theorem advanceThrough (unfinished : Unfinished plan ok t) (waits : Nat) (c : Console) :
    (c.cache.Unmarked (t.advanceThrough waits c).1.cache ∧
      Unfinished plan ok (t.advanceThrough waits c).2) ∨
      (∃ a, (t.advanceThrough waits c).2 = .done a) ∧
        (t.advanceThrough waits c).1.cache = c.cache.apply plan := by
  rcases unfinished with asks | marks
  · exact .inl ((asks.advanceThrough waits c).imp_right .inl)
  · refine (marks.advanceThrough waits c).imp_left fun ⟨same, further⟩ => ⟨?_, .inr further⟩
    rw [same]
    exact .refl _

theorem called {question : Console → Request} {next : Reply → ConsoleTask α}
    (unfinished : Unfinished plan ok (.call question next)) (reply : Reply) :
    Unfinished plan ok (next reply) :=
  unfinished.elim (fun asks => .inr (asks reply)) False.elim

theorem slept {time : Nat} {next : ConsoleTask α}
    (unfinished : Unfinished plan ok (.sleep time next)) : Unfinished plan ok next :=
  unfinished.elim .inl False.elim

end Unfinished

/-! ### The changes -/

/-- A read marks nothing. -/
theorem unmarked_fetch (key : Key) (policy : FetchPolicy) (cast : Payload → Option α) :
    (Cache.fetch key policy () cast : ConsoleTask (Except Error α)).Within
      fun c c' : Console => c.cache.Unmarked c'.cache := by
  refine Task.Within.bind ⟨fun c => .read c.cache c.now key policy (), fun _ => trivial⟩
    fun reading => ?_
  cases reading with
  | served v => trivial
  | awaiting flight => exact ⟨fun _ => .refl _, fun _ => trivial⟩

namespace AsksFirst

theorem of_makes {key? : Option Key} {t : ConsoleTask (Except Error α)} (makes : Makes plan key? t) :
    AsksFirst plan Succeeds t := by
  induction makes with
  | refused key? e => exact failure e
  | sent key? sends => exact concluding (.of_sends sends)
  | read fails rest ih =>
    refine behind (.fetch _ _ _) (unmarked_fetch _ _ _) fun outcome => ?_
    cases outcome with
    | error e =>
      rw [fails]
      exact failure e
    | ok cs => exact ih cs

/-- What follows a success is not waited for. -/
theorem following {follow : ConsoleTask Unit} {t : ConsoleTask (Except Error α)}
    (asks : AsksFirst plan Succeeds t) (out : RunsOut follow) :
    AsksFirst plan Succeeds (t.bind (following follow)) := by
  refine asks.bind ⟨fun outcome failed => ?_, fun outcome => ?_⟩
  · cases outcome with
    | error e => exact ⟨_, rfl, fun ⟨a, same⟩ => by cases same⟩
    | ok a => exact absurd ⟨a, rfl⟩ failed
  · cases outcome with
    | error e => trivial
    | ok a => exact out.bind fun _ => trivial

theorem dropTable (table : String) (confirmed : Bool) :
    AsksFirst (.dropTable table) Succeeds (Console.dropTable table confirmed) := by
  rw [dropTable_eq]
  exact (of_makes (.storeDropTable table confirmed)).following ⟨fun _ => rfl, fun _ => trivial⟩

theorem alterTable (table : String) (change : Alteration) (confirmed : Bool) :
    AsksFirst (.alterTable table change) Succeeds
      (Console.alterTable table change confirmed) := by
  rw [alterTable_eq]
  refine (of_makes (.storeAlterTable table change confirmed)).following ?_
  unfold followAlteration
  cases change.renamedTo? with
  | none => trivial
  | some newName => exact ⟨fun _ => rfl, fun _ => trivial⟩

theorem returning {wrap : α → Returned} {t : ConsoleTask (Except Error α)}
    (asks : AsksFirst plan Succeeds t) : AsksFirst plan Returns (Console.returning wrap t) := by
  refine asks.bind (.map fun r ⟨returned, same⟩ => ?_)
  cases r with
  | error e => cases same
  | ok a => exact ⟨a, rfl⟩

end AsksFirst

theorem Change.asksFirst (change : Change) : AsksFirst change.plan Returns change.task := by
  obtain ⟨_, _, _, makes, same⟩ := change.makes
  rw [same]
  exact (AsksFirst.of_makes makes).returning

/-- The change of the store that an action makes, with the selection that follows it or without. -/
def Action.change? : Action → Option Change
  | .operate (.change change) => some change
  | .dropTable table confirmed => some (.dropTable table confirmed)
  | .alterTable table change confirmed => some (.alterTable table change confirmed)
  | _ => none

/-- The outcome is a success of the store. -/
def Outcome.Stored (outcome : Option Outcome) : Prop :=
  ∃ x, outcome = some (.store (.ok x))

instance : (outcome : Option Outcome) → Decidable (Outcome.Stored outcome)
  | some (.store (.ok x)) => .isTrue ⟨x, rfl⟩
  | some (.store (.error _)) => .isFalse fun ⟨_, same⟩ => by cases same
  | some (.session _) => .isFalse fun ⟨_, same⟩ => by cases same
  | some (.grant _) => .isFalse fun ⟨_, same⟩ => by cases same
  | some (.closing _) => .isFalse fun ⟨_, same⟩ => by cases same
  | some (.rows _) => .isFalse fun ⟨_, same⟩ => by cases same
  | none => .isFalse fun ⟨_, same⟩ => by cases same

theorem Action.asksFirst {action : Action} {change : Change} (makes : action.change? = some change) :
    AsksFirst change.plan Outcome.Stored action.whole := by
  have telling {t : ConsoleTask (Option (Except Error Returned))}
      (asks : AsksFirst change.plan Returns t) :
      AsksFirst change.plan Outcome.Stored (t.bind fun r => .done (r.map .store)) := by
    refine asks.bind (.map fun r ⟨x, same⟩ => ?_)
    obtain ⟨outcome, rfl, ok⟩ := Option.map_eq_some_iff.mp same
    cases ok
    exact ⟨x, rfl⟩
  cases action with
  | operate operation =>
    cases operation with
    | read read => cases makes
    | change change => cases makes; exact telling change.asksFirst
  | dropTable table confirmed => cases makes; exact telling (AsksFirst.dropTable _ _).returning
  | alterTable table change confirmed =>
    cases makes
    exact telling (AsksFirst.alterTable _ _ _).returning
  | _ => cases makes

/-! ### What a change touches -/

/-- The cached reads that a change touches when it succeeds. -/
def Change.Touches : Change → Key → Prop
  | .createTable _, key => key = .tables ∨ key = .databaseInfo
  | .dropTable table _, key => key = .tables ∨ key = .databaseInfo ∨ key.table? = some table
  | .alterTable table change _, key =>
    key = .tables ∨ key.table? = some table ∨
      ∃ newName, change.renamedTo? = some newName ∧ key.table? = some newName
  | .insertRow table _, key => ∃ query, key = .rows table query
  | .updateRow table _ _, key => ∃ query, key = .rows table query
  | .deleteRow table _ _, key => ∃ query, key = .rows table query
  | .executeSql request engine _, key => (Sql.scope engine request.sql).Touches key

theorem Change.covers_iff (change : Change) (key : Key) :
    change.plan.covers key ↔ change.Touches key := by
  have none : Plan.empty.covers key = false := rfl
  cases change with
  | executeSql request engine confirmed => exact Sql.covers_ofScope_iff _ key
  | alterTable table change confirmed =>
    cases renames : change.renamedTo? with
    | none =>
      cases key <;> simp [plan, Touches, Plan.alterTable, renames, none, Filter.covers, Key.table?]
      all_goals grind
    | some newName =>
      cases key <;> simp [plan, Touches, Plan.alterTable, renames, none, Filter.covers, Key.table?]
      all_goals grind
  | _ =>
    cases key <;>
      simp [plan, Touches, Plan.createTable, Plan.dropTable, Plan.rowChange, none, Filter.covers,
        Key.table?]

instance (change : Change) (key : Key) : Decidable (change.Touches key) :=
  decidable_of_iff _ (change.covers_iff key)

/-- What is left of the entries when the change has marked what it touches. -/
theorem Change.lookup?_apply (change : Change) (c : Cache Payload Unit) (key : Key) :
    (c.apply change.plan).takeDepartures.2.lookup? key =
      (c.lookup? key).map fun e => if change.Touches key then e.invalidate else e := by
  change (c.invalidate change.plan.filters).lookup? key = _
  rw [Cache.lookup?_invalidate]
  exact congrArg (Option.map · _) (funext fun _ => if_congr (change.covers_iff key) rfl rfl)

/-! ### Changes in the life of a console -/

theorem Deeds.nodup_keys {c c' : Console} (deeds : Deeds c c')
    (once : (c.cache.entries.map Prod.fst).Nodup) : (c'.cache.entries.map Prod.fst).Nodup := by
  refine deeds.keeps (fun c => (c.cache.entries.map Prod.fst).Nodup) (fun c c' deed once => ?_) once
  cases deed with
  | session _ deed => rwa [deed.cache]
  | cache e => exact e.nodup_keys once
  | departures => exact once
  | view w onward => exact once

namespace Life

variable {E : Type} {r : Life E} {action : Action} {change : Change} {begun n m : Nat}

/-- What is left of a change: it has yet to mark what it touches, or it has ended. -/
def Left (r : Life E) (change : Change) (begun n : Nat) (t : ConsoleTask (Option Outcome)) : Prop :=
  Unfinished change.plan Outcome.Stored t ∨ ∃ m < n, ∃ x c, r.history.Ends m begun.repr x c

theorem left_of_change (makes : action.change? = some change)
    (begins : r.does begun = .begin action) (lt : begun < n) :
    (r.history.pool n).AllLeft fun name t => name = begun.repr → r.Left change begun n t := by
  refine History.tracked (r.Left change begun) (happens_of_begin begins)
    (.inl (.inl (action.asksFirst makes))) ?_ ?_ lt
  · intro n place waits t _ happens found left
    refine Task.Resumes.of_holds ?_
      (fun _ _ reply left _ => left.imp_left fun unfinished => unfinished.called reply)
      fun _ _ left => left.imp_left Unfinished.slept
    rcases left with unfinished | ⟨m, before, ended⟩
    · rcases unfinished.advanceThrough waits (r.console n) with ⟨_, further⟩ | ⟨⟨x, ends⟩, _⟩
      · exact .inl further
      · exact .inr ⟨n, Nat.lt_succ_self n, x, _, place, waits, t, happens, found, Prod.ext rfl ends⟩
    · exact .inr ⟨m, Nat.lt_succ_of_lt before, ended⟩
  · exact fun n t _ _ left =>
      left.imp_right fun ⟨m, before, ended⟩ => ⟨m, Nat.lt_succ_of_lt before, ended⟩

theorem unfinished_of_runs {t : ConsoleTask (Option Outcome)} (makes : action.change? = some change)
    (begins : r.does begun = .begin action) (runs : r.Runs m begun.repr t) :
    Unfinished change.plan Outcome.Stored t := by
  obtain ⟨place, waits, happens, found⟩ := runs
  have member := List.mem_of_getElem? found
  have lt : begun < m := by
    by_contra early
    exact History.absent (Nat.le_of_not_lt early) _ _ member rfl
  refine (left_of_change makes begins lt _ _ member rfl).resolve_right ?_
  rintro ⟨ended, before, x, c, ends⟩
  exact History.not_runs_of_ends (happens_of_begin begins) ends before t ⟨place, waits, happens, found⟩

/-- The visit in which a change comes to its end with success marks what its plan covers, and no
other visit to it marks anything. -/
theorem exists_marking (makes : action.change? = some change)
    (begins : r.does begun = .begin action) {x : Returned}
    (returned : r.returned? begun n = some (.store (.ok x))) :
    ∃ ended c, begun < ended ∧ ended < n ∧ r.Ends ended begun.repr (.store (.ok x)) c ∧
      (r.console (ended + 1)).cache = ((r.console ended).cache.apply change.plan).takeDepartures.2 ∧
      ∀ m t, r.Runs m begun.repr t → m ≠ ended →
        (r.console m).cache.Unmarked (r.console (m + 1)).cache := by
  obtain ⟨ended, c, behind, before, ends⟩ := History.exists_ends_of_result? returned
  refine ⟨ended, c, behind, before, ends, ?_, fun m t runs apart => ?_⟩
  · have after := History.state_succ_of_ends ends
    obtain ⟨place, waits, t, happens, found, same⟩ := ends
    have unfinished := unfinished_of_runs makes begins ⟨place, waits, happens, found⟩
    rcases unfinished.advanceThrough waits (r.console ended) with ⟨_, further⟩ | ⟨_, marked⟩
    · change Unfinished _ _ (t.advanceThrough waits (r.history.state ended)).2 at further
      rw [same] at further
      exact absurd ⟨x, rfl⟩ further.not_ok
    · change (t.advanceThrough waits (r.history.state ended)).1.cache = _ at marked
      rw [same] at marked
      rw [console, after, ← marked]
      rfl
  · have unfinished := unfinished_of_runs makes begins runs
    obtain ⟨place, waits, happens, found⟩ := id runs
    have after : (r.console (m + 1)).cache =
        (t.advanceThrough waits (r.console m)).1.cache.takeDepartures.2 :=
      congrArg Console.cache (History.state_succ_of_visit happens found)
    rw [after]
    rcases unfinished.advanceThrough waits (r.console m) with ⟨unmarked, _⟩ | ⟨⟨y, done⟩, _⟩
    · exact unmarked
    · -- The change would have come to its end twice.
      have ends' : r.history.Ends m begun.repr y (t.advanceThrough waits (r.console m)).1 :=
        ⟨place, waits, t, happens, found, Prod.ext rfl done⟩
      have begins' := happens_of_begin begins
      rcases Nat.lt_or_gt_of_ne apart with lt | gt
      · obtain ⟨place', waits', t', happens', found', _⟩ := ends
        exact absurd ⟨place', waits', happens', found'⟩
          (History.not_runs_of_ends begins' ends' lt t')
      · exact absurd runs (History.not_runs_of_ends begins' ends gt t)

/-- A change that succeeds marks each entry that it touches once, in the visit in which it comes to its
end, where as many entries are counted; all others, and all entries in its other visits, it leaves as
they were. -/
theorem invalidates_exactly (makes : action.change? = some change)
    (once : (r.start.cache.entries.map Prod.fst).Nodup) (begins : r.does begun = .begin action)
    {x : Returned} (returned : r.returned? begun n = some (.store (.ok x))) :
    (∀ key, change.plan.covers key ↔ change.Touches key) ∧
      ∃ ended c, begun < ended ∧ ended < n ∧ r.Ends ended begun.repr (.store (.ok x)) c ∧
        (∀ key, (r.console (ended + 1)).cache.lookup? key =
          ((r.console ended).cache.lookup? key).map fun e =>
            if change.Touches key then { e with invalidated := true, generation := e.generation + 1 }
            else e) ∧
        (r.console ended).cache.coveredCount change.plan.filters =
          {key | change.Touches key ∧ ((r.console ended).cache.lookup? key).isSome}.ncard ∧
        ∀ m t, r.Runs m begun.repr t → m ≠ ended →
          (r.console m).cache.Unmarked (r.console (m + 1)).cache := by
  obtain ⟨ended, c, behind, before, ends, marked, others⟩ := exists_marking makes begins returned
  refine ⟨change.covers_iff, ended, c, behind, before, ends, fun key => ?_, ?_, others⟩
  · rw [marked, change.lookup?_apply]
    rfl
  · rw [Cache.coveredCount_eq_ncard ((r.deeds (Nat.zero_le ended)).nodup_keys once)]
    congr 1
    ext key
    exact and_congr_left fun _ => change.covers_iff key

/-- A backend that tells one foreign key of whatever table it is asked for, and agrees to changes. -/
def referringBackend (_ : Unit) (request : Request) : Unit × Answer Reply :=
  ((), .now (agreeing (match request.method with
    | .get => "\x7b\"foreign_keys\":[\x7b\"constraint_name\":\"orders_user\"," ++
        "\"column_name\":\"user_id\",\"foreign_table\":\"users\",\"foreign_column\":\"id\"\x7d]\x7d"
    | _ => "\x7b\"message\":\"OK\",\"table\":\"users\",\"rows_affected\":0\x7d")))

/-- The foreign keys of a table are read, and then something is done. -/
def behindListing (table : String) (action : Action) : Life Unit where
  submit := referringBackend
  start := tokenConsole .initial
  world := ()
  does
    | 0 => .begin (.operate (.read (.one (.foreignKeys table) .cached)))
    | 1 => .visit 0 1
    | 2 => .visit 1 0
    | 3 => .visit 1 1
    | 4 => .visit 0 1
    | 5 => .begin action
    | 6 => .visit 2 0
    | 7 => .visit 2 1
    | _ => .tidy

/-- A table whose foreign keys are cached is given another name. -/
def renamedUsers : Life Unit :=
  behindListing "users" (.alterTable "users" (.renameTable "customers") true)

/-- The listing, which two filters of the plan cover, is marked once. -/
theorem renamedUsers_marks_once : (renamedUsers.start.cache.entries.map Prod.fst).Nodup ∧
    ∃ x, renamedUsers.returned? 5 8 = some (.store (.ok x)) ∧
      ∃ ended, 5 < ended ∧ ended < 8 ∧
        ((renamedUsers.console ended).cache.lookup? (.foreignKeys "users")).isSome ∧
        ((renamedUsers.console (ended + 1)).cache.lookup? (.foreignKeys "users")).map (·.generation) =
          ((renamedUsers.console ended).cache.lookup? (.foreignKeys "users")).map (·.generation + 1) := by
  have succeeded : Outcome.Stored (renamedUsers.returned? 5 8) := by decide +kernel
  have there : ∀ m ∈ [6, 7],
      ((renamedUsers.console m).cache.lookup? (.foreignKeys "users")).isSome := by decide +kernel
  obtain ⟨x, returned⟩ := succeeded
  have once : (renamedUsers.start.cache.entries.map Prod.fst).Nodup := List.nodup_nil
  have begins : renamedUsers.does 5 =
      .begin (.alterTable "users" (.renameTable "customers") true) := rfl
  obtain ⟨_, ended, c, behind, before, _, marked, _, _⟩ :=
    invalidates_exactly rfl once begins returned
  have at_end : ended ∈ [6, 7] := by
    simp only [List.mem_cons, List.not_mem_nil, or_false]
    omega
  refine ⟨once, x, returned, ended, behind, before, there ended at_end, ?_⟩
  rw [marked, Option.map_map]
  rfl

end Life

end Console

end DbConsole

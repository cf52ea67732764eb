import DbConsole.Proofs.Console.Marking

/-!
Cached listings of foreign keys when the table is dropped or renamed that their keys refer to. Only the
listings of that table itself are marked, so those of others go on naming it.
-/
set_option autoImplicit false

namespace DbConsole.Console

/-- The cached listing of a table's foreign keys, which is not marked as invalidated, names the other
table. -/
def Lists (c : Console) (table foreign : String) : Prop :=
  ∃ e keys, c.cache.lookup? (.foreignKeys table) = some e ∧ e.invalidated = false ∧
    e.value = some (.foreignKeys keys) ∧ ∃ k ∈ keys, k.foreignTable = foreign

instance (c : Console) (table foreign : String) : Decidable (c.Lists table foreign) :=
  decidable_of_iff ((c.cache.lookup? (.foreignKeys table)).any fun e => !e.invalidated &&
      (e.value.bind Payload.foreignKeys?).any fun keys => keys.any (·.foreignTable == foreign)) (by
    have named (value : Option Payload) (keys : List ForeignKey) :
        value.bind Payload.foreignKeys? = some keys ↔ value = some (.foreignKeys keys) := by
      rcases value with _ | _ | _ | _ | _ | _ | _ <;> simp [Payload.foreignKeys?]
    simp [Lists, Option.any_eq_true, named])

/-- The name that a table loses by the action, and the one that it has instead. -/
def Action.retires? : Action → Option (String × Option String)
  | .dropTable table _ => some (table, none)
  | .alterTable table change _ => change.renamedTo?.map fun newName => (table, some newName)
  | _ => none

theorem Action.exists_change_of_retires {action : Action} {old : String} {new? : Option String}
    (retires : action.retires? = some (old, new?)) :
    ∃ change, action.change? = some change ∧
      ∀ table, change.Touches (.foreignKeys table) ↔ table = old ∨ new? = some table := by
  cases action with
  | dropTable table confirmed =>
    cases retires
    exact ⟨_, rfl, fun table => by simp [Change.Touches, Key.table?]⟩
  | alterTable table change confirmed =>
    obtain ⟨newName, renames, same⟩ := Option.map_eq_some_iff.mp retires
    cases same
    refine ⟨_, rfl, fun table => ?_⟩
    simp [Change.Touches, Key.table?, renames, eq_comm]
  | _ => cases retires

namespace Life

variable {E : Type} {r : Life E} {action : Action} {begun n : Nat} {old : String}
  {new? : Option String}

/-- When a table has been dropped or renamed with success, the listings that were not marked and named
it still do, but for those of its old and its new name. -/
theorem lists_behind_retirement (retires : action.retires? = some (old, new?))
    (begins : r.does begun = .begin action) {x : Returned}
    (returned : r.returned? begun n = some (.store (.ok x))) :
    ∃ ended c, begun < ended ∧ ended < n ∧ r.Ends ended begun.repr (.store (.ok x)) c ∧
      (∀ table foreign, (r.console (ended + 1)).Lists table foreign ↔
        (r.console ended).Lists table foreign ∧ table ≠ old ∧ new? ≠ some table) ∧
      ((∀ table, ¬ (r.console (ended + 1)).Lists table old) ↔
        ∀ table, (r.console ended).Lists table old → table = old ∨ new? = some table) := by
  obtain ⟨change, makes, touches⟩ := action.exists_change_of_retires retires
  obtain ⟨ended, c, behind, before, ends, marked, _⟩ := exists_marking makes begins returned
  have lists (table foreign : String) : (r.console (ended + 1)).Lists table foreign ↔
      (r.console ended).Lists table foreign ∧ table ≠ old ∧ new? ≠ some table := by
    rw [Lists, marked, change.lookup?_apply, ← not_or, ← touches]
    by_cases touched : change.Touches (.foreignKeys table)
    · simp [touched, Entry.invalidate]
    · simp [touched, Lists]
  refine ⟨ended, c, behind, before, ends, lists, ?_⟩
  simp only [lists]
  grind

/-- A table that refers to itself is dropped. -/
def selfDropped : Life Unit :=
  behindListing "users" (.dropTable "users" true)

/-- Nothing names a table that has been dropped together with the only listing that named it. -/
theorem selfDropped_unlisted : (selfDropped.console 5).Lists "users" "users" ∧
    ∃ x, selfDropped.returned? 5 8 = some (.store (.ok x)) ∧
      ∃ ended, 5 < ended ∧ ended < 8 ∧
        ∀ table, ¬ (selfDropped.console (ended + 1)).Lists table "users" := by
  have succeeded : Outcome.Stored (selfDropped.returned? 5 8) := by decide +kernel
  have only : ∀ m ∈ [6, 7], ∀ p ∈ (selfDropped.console m).cache.entries,
      p.1 = .foreignKeys "users" := by decide +kernel
  obtain ⟨x, returned⟩ := succeeded
  have begins : selfDropped.does 5 = .begin (.dropTable "users" true) := rfl
  obtain ⟨ended, c, behind, before, _, _, iff⟩ := lists_behind_retirement rfl begins returned
  refine ⟨by decide +kernel, x, returned, ended, behind, before, iff.mpr ?_⟩
  rintro table ⟨e, _, found, _⟩
  obtain ⟨p, at_, _⟩ := Option.map_eq_some_iff.mp found
  have at_end : ended ∈ [6, 7] := by
    simp only [List.mem_cons, List.not_mem_nil, or_false]
    omega
  have same : p.1 = .foreignKeys table := by simpa using List.find?_some at_
  exact .inl (by simpa using same.symm.trans (only ended at_end p (List.mem_of_find?_eq_some at_)))

/-- When a table has been dropped or renamed, the listing of another one names it as before. -/
theorem still_listed_behind_retirement :
    (Outcome.Stored ((behindListing "orders" (.dropTable "users" true)).returned? 5 8) ∧
      ((behindListing "orders" (.dropTable "users" true)).console 8).Lists "orders" "users") ∧
    Outcome.Stored ((behindListing "orders"
        (.alterTable "users" (.renameTable "customers") true)).returned? 5 8) ∧
      ((behindListing "orders"
        (.alterTable "users" (.renameTable "customers") true)).console 8).Lists "orders" "users" := by
  decide +kernel

end Life

end DbConsole.Console

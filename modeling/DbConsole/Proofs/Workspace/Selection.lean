import DbConsole.Proofs.Workspace.Tickets
import Mathlib.Algebra.Ring.Parity
import Mathlib.Data.List.DropRight
import Mathlib.Data.List.Nodup

/-!
Which rows are selected after a run of calls: those that have been toggled an odd number of times since
the selection was last cleared.
-/
set_option autoImplicit false

namespace DbConsole.Workspace

namespace Exchange

/-- Whether a call with this answer has cleared the selection. -/
def clears (x : Exchange) : Bool :=
  match x.call with
  | .edit (.selectTable _) | .edit .clearRows | .edit .reset => true
  | .edit (.tableDropped _) => x.answer == .flag true
  | _ => false

def toggles (id : RowId) (x : Exchange) : Bool :=
  x.call == .edit (.toggleRow id)

/-- How often the row has been toggled since the selection was last cleared, or from the beginning on. -/
def togglesSinceClearing (id : RowId) (log : List Exchange) : Nat :=
  (log.rtakeWhile (!·.clears)).countP (·.toggles id)

theorem togglesSinceClearing_concat (id : RowId) (log : List Exchange) (x : Exchange) :
    togglesSinceClearing id (log ++ [x]) =
      if x.clears then 0
      else togglesSinceClearing id log + if x.toggles id then 1 else 0 := by
  unfold togglesSinceClearing
  rw [List.rtakeWhile_concat]
  cases x.clears with
  | true => rfl
  | false =>
    simp only [Bool.not_false, if_true, Bool.false_eq_true, if_false, List.countP_append,
      List.countP_singleton]

end Exchange

/-! ### One call -/

theorem isSelected_iff {w : Workspace} {id : RowId} : w.isSelected id = true ↔ id ∈ w.selected :=
  List.contains_iff_mem

/-- A row is selected behind its own toggling just if it was not before, and the other rows stay as
they were. -/
theorem mem_selected_toggleRow (w : Workspace) (id other : RowId) :
    other ∈ (w.toggleRow id).selected ↔
      if other = id then id ∉ w.selected else other ∈ w.selected := by
  unfold toggleRow bump
  by_cases member : id ∈ w.selected
  · rw [if_pos (isSelected_iff.mpr member)]
    by_cases same : other = id <;> simp [same, member]
  · rw [if_neg (mt isSelected_iff.mp member)]
    by_cases same : other = id <;> simp [same, member]

theorem nodup_toggleRow {w : Workspace} (nodup : w.selected.Nodup) (id : RowId) :
    (w.toggleRow id).selected.Nodup := by
  unfold toggleRow bump
  by_cases member : id ∈ w.selected
  · rw [if_pos (isSelected_iff.mpr member)]
    exact nodup.filter _
  · rw [if_neg (mt isSelected_iff.mp member)]
    rw [← List.concat_eq_append]
    exact (List.nodup_concat _ _).mpr ⟨member, nodup⟩

namespace Watched

/-- What a call does to the selection: it clears it, toggles one row or leaves it alone. -/
theorem selected_call_cases (s : Watched) (c : Call) :
    ((⟨c, (s.call c).2⟩ : Exchange).clears = true ∧ (s.call c).1.view.selected = []) ∨
      ((∃ id, c = .edit (.toggleRow id)) ∧ (⟨c, (s.call c).2⟩ : Exchange).clears = false) ∨
      ((∀ id, c ≠ .edit (.toggleRow id)) ∧ (⟨c, (s.call c).2⟩ : Exchange).clears = false ∧
        (s.call c).1.view.selected = s.view.selected) := by
  cases c with
  | edit e =>
    cases e with
    | selectTable table => exact .inl ⟨rfl, rfl⟩
    | clearRows => exact .inl ⟨rfl, rfl⟩
    | reset => exact .inl ⟨rfl, rfl⟩
    | toggleRow id => exact .inr (.inl ⟨⟨id, rfl⟩, rfl⟩)
    | tableDropped table =>
      by_cases shown : s.view.table = some table
      · apply Or.inl
        simp [call, edit, shown, Exchange.clears, publish, Workspace.tableDropped, selectTable, bump]
      · refine .inr (.inr ⟨by simp, ?_⟩)
        simp [call, edit, shown, Exchange.clears]
    | tableRenamed old new =>
      refine .inr (.inr ⟨by simp, rfl, ?_⟩)
      by_cases shown : s.view.table = some old
      · simp [call, edit, shown, publish, Workspace.tableRenamed, bump]
      · simp [call, edit, shown]
    | _ => exact .inr (.inr ⟨by simp, rfl, rfl⟩)
  | _ => exact .inr (.inr ⟨by simp, rfl, rfl⟩)

theorem mem_selected_call (s : Watched) (c : Call) (id : RowId) :
    id ∈ (s.call c).1.view.selected ↔
      (⟨c, (s.call c).2⟩ : Exchange).clears = false ∧
        if (⟨c, (s.call c).2⟩ : Exchange).toggles id then id ∉ s.view.selected
        else id ∈ s.view.selected := by
  rcases selected_call_cases s c with ⟨clears, none⟩ | ⟨⟨other, rfl⟩, keeps⟩ | ⟨apart, keeps, same⟩
  · simp [clears, none]
  · have toggled := mem_selected_toggleRow s.view other id
    rw [keeps]
    by_cases same : id = other
    · subst same
      simpa [Exchange.toggles, call, edit, publish] using toggled
    · have apart : ¬other = id := fun same' => same same'.symm
      simpa [Exchange.toggles, call, edit, publish, same, apart] using toggled
  · have other : (⟨c, (s.call c).2⟩ : Exchange).toggles id = false := by
      simpa [Exchange.toggles] using apart id
    simp [other, keeps, same]

theorem nodup_selected_call {s : Watched} (nodup : s.view.selected.Nodup) (c : Call) :
    (s.call c).1.view.selected.Nodup := by
  rcases selected_call_cases s c with ⟨_, none⟩ | ⟨⟨id, rfl⟩, _⟩ | ⟨_, _, same⟩
  · rw [none]
    exact List.nodup_nil
  · exact nodup_toggleRow nodup id
  · rw [same]
    exact nodup

/-- Where the selected table becomes another one without having been renamed, no row is left
selected. -/
theorem selected_of_table_ne {s : Watched} {c : Call}
    (other : (s.call c).1.view.table ≠ s.view.table) :
    (∃ old next, c = .edit (.tableRenamed old next)) ∨ (s.call c).1.view.selected = [] := by
  rcases selected_call_cases s c with ⟨_, none⟩ | ⟨⟨id, rfl⟩, _⟩ | ⟨apart, keeps, _⟩
  · exact .inr none
  · refine absurd ?_ other
    change (s.view.toggleRow id).table = s.view.table
    unfold toggleRow
    split <;> rfl
  · apply Or.inl
    cases c with
    | edit e =>
      cases e with
      | tableRenamed old next => exact ⟨old, next, rfl⟩
      | tableDropped table =>
        by_cases shown : s.view.table = some table
        · simp [call, edit, shown, Exchange.clears] at keeps
        · simp [call, edit, shown] at other
      | toggleRow id => exact absurd rfl (apart id)
      | selectTable _ | clearRows | reset => cases keeps
      | setMode _ | setQuery _ => exact absurd rfl other
    | _ => exact absurd rfl other

/-! ### Whole runs -/

theorem nodup_selected_after (calls : List Call) : (new.after calls).view.selected.Nodup := by
  induction calls using List.reverseRecOn with
  | nil => exact List.nodup_nil
  | append_singleton calls c ih =>
    rw [after_concat]
    exact nodup_selected_call ih c

/-- A row is selected just if it has been toggled an odd number of times since the last clearing. -/
theorem mem_selected_after (calls : List Call) (id : RowId) :
    id ∈ (new.after calls).view.selected ↔
      Odd (Exchange.togglesSinceClearing id (new.log calls)) := by
  induction calls using List.reverseRecOn with
  | nil => simp [new, initial, Exchange.togglesSinceClearing]
  | append_singleton calls c ih =>
    rw [after_concat, log_concat, mem_selected_call, Exchange.togglesSinceClearing_concat]
    cases (⟨c, ((new.after calls).call c).2⟩ : Exchange).clears with
    | true => simp
    | false =>
      cases (⟨c, ((new.after calls).call c).2⟩ : Exchange).toggles id with
      | true => simp [ih, Nat.odd_add_one]
      | false => simp [ih]

/-- After any calls from the beginning on, the selected rows, of which none stands twice, are those that
have been toggled an odd number of times since a table was last selected, the rows were cleared, the
view was reset or the selected table was reported gone; and who toggles a row is told whether it is
selected then. No row is still selected when the selected table has become another one, other than by
a new name; a new name, a mode and a page leave the selection as it is. -/
theorem selected_iff_odd (calls : List Call) :
    (∀ id, id ∈ (new.after calls).view.selected ↔
        Odd (Exchange.togglesSinceClearing id (new.log calls))) ∧
      (new.after calls).view.selected.Nodup ∧
      (∀ id, ((new.after calls).call (.edit (.toggleRow id))).2 =
        .flag (decide (id ∈ (new.after (calls ++ [.edit (.toggleRow id)])).view.selected))) ∧
      ∀ c, ((new.after (calls ++ [c])).view.table ≠ (new.after calls).view.table →
          (∃ old next, c = .edit (.tableRenamed old next)) ∨
            (new.after (calls ++ [c])).view.selected = []) ∧
        ((∃ old next, c = .edit (.tableRenamed old next)) ∨ (∃ mode, c = .edit (.setMode mode)) ∨
            (∃ query, c = .edit (.setQuery query)) →
          (new.after (calls ++ [c])).view.selected = (new.after calls).view.selected) := by
  refine ⟨mem_selected_after calls, nodup_selected_after calls, fun id => ?_, fun c => ⟨?_, ?_⟩⟩
  · rw [after_concat]
    have toggled := mem_selected_toggleRow (new.after calls).view id id
    by_cases member : id ∈ (new.after calls).view.selected
    · simp [call, edit, publish, toggled, member, isSelected]
    · simp [call, edit, publish, toggled, member, isSelected]
  · rw [after_concat]
    exact selected_of_table_ne
  · intro kept
    rw [after_concat]
    rcases selected_call_cases (new.after calls) c with ⟨clears, _⟩ | ⟨⟨id, rfl⟩, _⟩ | ⟨_, _, same⟩
    · rcases kept with ⟨_, _, rfl⟩ | ⟨_, rfl⟩ | ⟨_, rfl⟩ <;> cases clears
    · rcases kept with ⟨_, _, ⟨⟩⟩ | ⟨_, ⟨⟩⟩ | ⟨_, ⟨⟩⟩
    · exact same

end Watched

end DbConsole.Workspace

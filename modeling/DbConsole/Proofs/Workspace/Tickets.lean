import DbConsole.Console.Changes

/-!
The view over whole runs of calls, and the tickets taken from it. A ticket is current just as long as
no call has changed the view; every change is published and counted, and nothing else is. So the
number of changes tells, of any two views of which the one has become the other, whether they are the
same.
-/
set_option autoImplicit false

namespace DbConsole.Workspace

/-- A call with the answer to it. -/
structure Exchange where
  call : Call
  answer : Answer
  deriving DecidableEq

/-- Whether a call with this answer has changed the view: a report of a table that is gone or renamed
has, if it was about the selected one, and everything else that is done to the view has. -/
def Exchange.changes (x : Exchange) : Bool :=
  match x.call with
  | .edit (.tableDropped _) | .edit (.tableRenamed _ _) => x.answer == .flag true
  | .edit _ => true
  | _ => false

namespace Watched

/-- What there is after the calls. -/
def after (s : Watched) (calls : List Call) : Watched :=
  calls.foldl (fun s c => (s.call c).1) s

/-- The calls with their answers, in order. -/
def log : Watched → List Call → List Exchange
  | _, [] => []
  | s, c :: rest => ⟨c, (s.call c).2⟩ :: log (s.call c).1 rest

section Runs

variable (s : Watched) (c : Call) (calls : List Call)

@[simp] theorem after_nil : s.after [] = s := rfl

@[simp] theorem after_cons : s.after (c :: calls) = (s.call c).1.after calls := rfl

@[simp] theorem log_nil : s.log [] = [] := rfl

@[simp] theorem log_cons :
    s.log (c :: calls) = ⟨c, (s.call c).2⟩ :: (s.call c).1.log calls := rfl

theorem after_concat : s.after (calls ++ [c]) = ((s.after calls).call c).1 := by
  simp only [after, List.foldl_append, List.foldl_cons, List.foldl_nil]

theorem log_concat :
    s.log (calls ++ [c]) = s.log calls ++ [⟨c, ((s.after calls).call c).2⟩] := by
  induction calls generalizing s with
  | nil => rfl
  | cons first rest ih => simp only [List.cons_append, log_cons, after_cons, ih]

end Runs

/-! ### One call -/

/-- What a call does to what there is, told by whether it has changed the view. -/
theorem call_cases (s : Watched) (c : Call) :
    ((⟨c, (s.call c).2⟩ : Exchange).changes = true ∧ ∃ next : Workspace,
        (s.call c).1 = s.publish next ∧ next.generation = s.view.generation + 1) ∨
      ((⟨c, (s.call c).2⟩ : Exchange).changes = false ∧ (s.call c).1 = s) := by
  cases c with
  | edit e =>
    cases e with
    | toggleRow id =>
      refine .inl ⟨rfl, s.view.toggleRow id, rfl, ?_⟩
      unfold toggleRow
      split <;> rfl
    | tableDropped table =>
      by_cases shown : s.view.table = some table
      · refine .inl ⟨?_, s.view.selectTable none, ?_, rfl⟩
        · simp [call, edit, shown, Exchange.changes]
        · simp only [call, edit, shown, if_true, Workspace.tableDropped]
      · apply Or.inr
        simp [call, edit, shown, Exchange.changes]
    | tableRenamed old new =>
      by_cases shown : s.view.table = some old
      · refine .inl ⟨?_, { s.view with table := some new }.bump, ?_, rfl⟩
        · simp [call, edit, shown, Exchange.changes]
        · simp only [call, edit, shown, if_true, Workspace.tableRenamed]
      · apply Or.inr
        simp [call, edit, shown, Exchange.changes]
    | _ => exact .inl ⟨rfl, _, rfl, rfl⟩
  | _ => exact .inr ⟨rfl, rfl⟩

theorem published_of_changes {s : Watched} {c : Call}
    (changes : (⟨c, (s.call c).2⟩ : Exchange).changes = true) :
    (s.call c).1.published = (s.call c).1.view :: s.published ∧
      (s.call c).1.view.generation = s.view.generation + 1 := by
  rcases call_cases s c with ⟨_, next, made, counted⟩ | ⟨still, _⟩
  · rw [made]
    exact ⟨rfl, counted⟩
  · rw [changes] at still
    cases still

theorem call_of_not_changes {s : Watched} {c : Call}
    (still : (⟨c, (s.call c).2⟩ : Exchange).changes = false) : (s.call c).1 = s := by
  rcases call_cases s c with ⟨changes, _⟩ | ⟨_, same⟩
  · rw [still] at changes
    cases changes
  · exact same

/-! ### Whole runs -/

/-- The generation counts the changes. -/
theorem generation_after (s : Watched) (calls : List Call) :
    (s.after calls).view.generation =
      s.view.generation + (s.log calls).countP (·.changes) := by
  induction calls generalizing s with
  | nil => rfl
  | cons c rest ih =>
    rw [after_cons, log_cons, ih, List.countP_cons]
    cases changes : (⟨c, (s.call c).2⟩ : Exchange).changes with
    | true =>
      have counted := (published_of_changes changes).2
      simp only [if_true]
      omega
    | false =>
      have same := call_of_not_changes changes
      simp [same]

theorem length_log (s : Watched) (calls : List Call) : (s.log calls).length = calls.length := by
  induction calls generalizing s with
  | nil => rfl
  | cons c rest ih => rw [log_cons, List.length_cons, List.length_cons, ih]

/-- As many calls would be needed to use up the generations that 64 bits hold. -/
theorem generation_after_le (calls : List Call) :
    (new.after calls).view.generation ≤ calls.length :=
  calc
    _ = 0 + (new.log calls).countP (·.changes) := generation_after new calls
    _ ≤ 0 + (new.log calls).length := Nat.add_le_add_left List.countP_le_length 0
    _ = calls.length := by rw [Nat.zero_add, length_log]

theorem after_of_none_changes {s : Watched} {calls : List Call}
    (none : ∀ x ∈ s.log calls, x.changes = false) : s.after calls = s := by
  induction calls generalizing s with
  | nil => rfl
  | cons c rest ih =>
    rw [log_cons, List.forall_mem_cons] at none
    have same := call_of_not_changes none.1
    rw [after_cons, same]
    apply ih
    rw [same] at none
    exact none.2

/-- A ticket is current just if nothing has changed the view. -/
theorem isCurrent_iff (s : Watched) (later : List Call) :
    (s.after later).view.isCurrent s.view.ticket = true ↔
      ∀ x ∈ s.log later, x.changes = false := by
  have counts := generation_after s later
  have none : (s.log later).countP (·.changes) = 0 ↔ ∀ x ∈ s.log later, x.changes = false := by
    simp [List.countP_eq_zero]
  rw [← none, isCurrent, beq_iff_eq]
  change (s.after later).view.generation = s.view.generation ↔ _
  omega

/-- A ticket is current, for whatever calls come behind it, just if none of them selects a table, sets
the mode or the page, toggles a row, clears the rows or resets the view, and none reports the selected
table gone or renamed. Each of these is published and counts the generation up, by one, so that it
stands as far from that of the ticket as there were changes; no other call publishes anything or does
anything else. And the view of a current ticket is the one that is shown. -/
theorem ticket_exact (s : Watched) (later : List Call) :
    ((s.after later).view.isCurrent s.view.ticket = true ↔
        ∀ x ∈ s.log later, x.changes = false) ∧
      (∀ c : Call, if (⟨c, ((s.after later).call c).2⟩ : Exchange).changes
        then ((s.after later).call c).1.published =
            ((s.after later).call c).1.view :: (s.after later).published ∧
          (s.after later).view.generation < ((s.after later).call c).1.view.generation
        else ((s.after later).call c).1 = s.after later) ∧
      (s.after later).view.generation =
        s.view.generation + (s.log later).countP (·.changes) ∧
      ((s.after later).view.isCurrent s.view.ticket = true →
        s.view.ticket.table = (s.after later).view.table ∧
          s.view.ticket.query = (s.after later).view.query) := by
  refine ⟨isCurrent_iff s later, fun c => ?_, generation_after s later, fun current => ?_⟩
  · split
    case isTrue changes =>
      have ⟨shown, counted⟩ := published_of_changes changes
      exact ⟨shown, by omega⟩
    case isFalse still => exact call_of_not_changes (Bool.eq_false_iff.mpr still)
  · have same := after_of_none_changes ((isCurrent_iff s later).mp current)
    rw [same]
    exact ⟨rfl, rfl⟩

end Watched

/-! ### A view that has become another -/

/-- The view is the same, or it has changed and the changes have been counted. -/
def Onward (w w' : Workspace) : Prop :=
  w' = w ∨ w.generation < w'.generation

namespace Onward

variable {w w' w'' : Workspace}

theorem refl (w : Workspace) : Onward w w :=
  Or.inl rfl

theorem le (onward : Onward w w') : w.generation ≤ w'.generation := by
  rcases onward with same | more
  · exact Nat.le_of_eq (congrArg Workspace.generation same.symm)
  · exact Nat.le_of_lt more

theorem trans (first : Onward w w') (second : Onward w' w'') : Onward w w'' := by
  rcases second with same | more
  · rw [same]
    exact first
  · exact Or.inr (Nat.lt_of_le_of_lt first.le more)

/-- Where no change has been counted there was none. -/
theorem eq_iff (onward : Onward w w') : w' = w ↔ w'.generation = w.generation := by
  constructor
  · exact congrArg Workspace.generation
  · intro same
    rcases onward with unchanged | more
    · exact unchanged
    · omega

theorem bump (w : Workspace) (more : w.generation ≤ w'.generation) : Onward w w'.bump :=
  Or.inr (Nat.lt_succ_of_le more)

theorem tableDropped (w : Workspace) (table : String) : Onward w (w.tableDropped table) := by
  unfold Workspace.tableDropped
  split
  · exact bump w (Nat.le_refl _)
  · exact refl w

theorem tableRenamed (w : Workspace) (old new : String) : Onward w (w.tableRenamed old new) := by
  unfold Workspace.tableRenamed
  split
  · exact bump w (Nat.le_refl _)
  · exact refl w

theorem edit (w : Workspace) (e : Edit) : Onward w (w.edit e) := by
  cases e with
  | toggleRow id =>
    unfold Workspace.edit Workspace.toggleRow
    dsimp only
    split <;> exact bump w (Nat.le_refl _)
  | tableDropped table => exact tableDropped w table
  | tableRenamed old new => exact tableRenamed w old new
  | _ => exact bump w (Nat.le_refl _)

theorem foldl {α : Type} {step : Workspace → α → Workspace}
    (each : ∀ w a, Onward w (step w a)) (as : List α) (w : Workspace) :
    Onward w (as.foldl step w) := by
  induction as generalizing w with
  | nil => exact refl w
  | cons a as ih => exact (each w a).trans (ih (step w a))

theorem followBatch (dropped : List String) (renamed : List (String × String)) (w : Workspace) :
    Onward w (Console.followBatch dropped renamed w) :=
  (foldl tableDropped dropped w).trans (foldl (fun w p => tableRenamed w p.1 p.2) renamed _)

end Onward

end DbConsole.Workspace

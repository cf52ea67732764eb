import DbConsole.Proofs.Task.Discipline

/-!
Where a task of a history comes to its end, and what it comes to where all that happens between its
visits is what it may rely on. A visit itself is not interrupted.
-/
set_option autoImplicit false

namespace DbConsole

variable {σ E Q A R : Type}

/-! ### Where a task ends -/

section Endings

variable {sys : System σ E Q A R}

namespace Pool

variable {p : Pool σ E Q A R} {name : String} {r : Option R} {place waits : Nat}

theorem eq_done_of_suspend {t : Task σ Q A (Option R)} (ended : (p.suspend sys t).2 = .ended r) :
    t = .done r := by
  cases t with
  | done x =>
    cases ended
    rfl
  | call question next =>
    dsimp only [suspend, answered] at ended
    split at ended
    · cases ended
    · split at ended <;> cases ended
    · cases ended
    · cases ended
  | _ => cases ended

/-- A visit ends the task at its place or none. -/
theorem mem_ended_visit : (name, .ended r) ∈ (p.visit sys place waits).threads ↔
    (name, .ended r) ∈ p.threads ∨ ∃ t, p.threads[place]? = some (name, .ready t) ∧
      (t.advanceThrough waits p.state).2 = .done r := by
  by_cases ready : ∃ visited t, p.threads[place]? = some (visited, .ready t)
  · obtain ⟨visited, t, found⟩ := ready
    constructor
    · intro member
      obtain ⟨i, at_i⟩ := List.mem_iff_getElem?.mp member
      rw [getElem?_visit found] at at_i
      split at at_i
      · obtain ⟨rfl, ended⟩ := Prod.mk.inj (Option.some.inj at_i)
        exact Or.inr ⟨t, found, eq_done_of_suspend ended⟩
      · rcases List.mem_append.mp (List.mem_of_getElem? at_i) with old | new
        · exact Or.inl old
        · obtain ⟨_, _, same⟩ := List.mem_map.mp new
          cases same
    · rintro (member | ⟨t', found', done⟩)
      · obtain ⟨i, at_i⟩ := List.mem_iff_getElem?.mp member
        have apart : place ≠ i := by
          rintro rfl
          cases found.symm.trans at_i
        refine List.mem_of_getElem? (i := i) ?_
        rw [getElem?_visit found, if_neg apart]
        exact getElem?_proceed at_i _
      · refine List.mem_of_getElem? (i := place) ?_
        rw [getElem?_visit found', if_pos rfl, done]
        rfl
  · have none (visited : String) (t : Task σ Q A (Option R)) :
        p.threads[place]? ≠ some (visited, .ready t) :=
      fun found => ready ⟨visited, t, found⟩
    rw [(visit_of_not_ready none).1]
    exact (or_iff_left fun ⟨t, found, _⟩ => none name t found).symm

theorem mem_ended_release (gate : String) :
    (name, .ended r) ∈ (p.release gate).threads ↔ (name, .ended r) ∈ p.threads := by
  refine ⟨fun member => ?_, fun member => List.mem_map.mpr ⟨_, member, rfl⟩⟩
  obtain ⟨_, was, resumed⟩ := exists_resumed_of_release member
  cases resumed
  exact was

theorem mem_ended_wake (time : Nat) :
    (name, .ended r) ∈ (p.wake time).threads ↔ (name, .ended r) ∈ p.threads := by
  refine ⟨fun member => ?_, fun member => List.mem_map.mpr ⟨_, member, rfl⟩⟩
  obtain ⟨_, was, resumed⟩ := exists_resumed_of_wake member
  cases resumed
  exact was

theorem mem_ended_tidy (named : name ≠ "") :
    (name, .ended r) ∈ p.tidy.threads ↔ (name, .ended r) ∈ p.threads :=
  List.mem_filter.trans (and_iff_left (bne_iff_ne.mpr named))

/-- What ends a task is a visit in which it has nothing left to do; what has ended stays. -/
theorem Event.mem_ended_apply (named : name ≠ "") (n : Nat) (e : Event σ E Q A R) :
    (name, .ended r) ∈ (e.apply sys n p).threads ↔
      (name, .ended r) ∈ p.threads ∨ ∃ place waits t, e = .visit place waits ∧
        p.threads[place]? = some (name, .ready t) ∧
          (t.advanceThrough waits p.state).2 = .done r := by
  cases e with
  | visit place waits =>
    rw [apply, mem_ended_visit]
    refine or_congr_right (Iff.intro ?_ ?_)
    · rintro ⟨t, facts⟩
      exact ⟨place, waits, t, rfl, facts⟩
    · rintro ⟨_, _, t, ⟨⟩, facts⟩
      exact ⟨t, facts⟩
  | begin task => simp [apply, spawn]
  | release gate => simp [apply, mem_ended_release]
  | wake time => simp [apply, mem_ended_wake]
  | tidy => simp [apply, mem_ended_tidy named]
  | drift f => simp [apply]
  | outside f => simp [apply]

end Pool

namespace History

variable (h : History sys)

/-- The task of the name has a visit in which it comes to its end; it leaves the state behind. -/
def Ends (n : Nat) (name : String) (x : Option R) (s : σ) : Prop :=
  ∃ place waits t, h.happens n = .visit place waits ∧
    (h.pool n).threads[place]? = some (name, .ready t) ∧
      t.advanceThrough waits (h.state n) = (s, .done x)

variable {h} {begun n m : Nat} {name : String} {x : Option R} {s : σ}

theorem state_succ_of_ends (ends : h.Ends n name x s) : h.state (n + 1) = (sys.started s).2 := by
  obtain ⟨place, waits, t, happens, found, same⟩ := ends
  rw [state_succ_of_visit happens found, same]

theorem mem_ended_succ (named : name ≠ "") : (name, .ended x) ∈ (h.pool (n + 1)).threads ↔
    (name, .ended x) ∈ (h.pool n).threads ∨ ∃ s, h.Ends n name x s := by
  rw [pool_succ, Pool.Event.mem_ended_apply named]
  refine or_congr_right ⟨?_, ?_⟩
  · rintro ⟨place, waits, t, happens, found, done⟩
    exact ⟨_, place, waits, t, happens, found, Prod.ext rfl done⟩
  · rintro ⟨s, place, waits, t, happens, found, same⟩
    exact ⟨place, waits, t, happens, found, congrArg Prod.snd same⟩

theorem ended_of_ends (named : name ≠ "") (ends : h.Ends n name x s) (lt : n < m) :
    (name, .ended x) ∈ (h.pool m).threads := by
  induction m, lt using Nat.le_induction with
  | base => exact (mem_ended_succ named).mpr (Or.inr ⟨s, ends⟩)
  | succ m _ ih => exact (mem_ended_succ named).mpr (Or.inl ih)

variable {task : Task σ Q A (Option R)}

/-- A task that has ended has no more visits. -/
theorem not_runs_of_ends (begins : h.happens begun = .begin task)
    (ends : h.Ends n begun.repr x s) (lt : n < m) (t : Task σ Q A (Option R)) :
    ¬ h.Runs m begun.repr t := by
  rintro ⟨place, waits, _, found⟩
  obtain ⟨i, at_i⟩ := List.mem_iff_getElem?.mp (ended_of_ends Nat.repr_ne_empty ends lt)
  have began : begun < m := by
    by_contra early
    exact not_mem_names (Nat.le_of_not_lt early)
      (List.mem_map.mpr ⟨_, List.mem_of_getElem? found, rfl⟩)
  cases (sole begins began).eq_of_getElem? found at_i
  cases found.symm.trans at_i

/-- A task that has come to a result has had a visit in which it came to its end. -/
theorem exists_ends_of_result? {y : R} (result : h.result? begun n = some y) :
    ∃ closed s, begun < closed ∧ closed < n ∧ h.Ends closed begun.repr (some y) s := by
  have ended := Pool.mem_of_result? result
  clear result
  induction n with
  | zero => exact absurd ended List.not_mem_nil
  | succ n ih =>
    rcases (mem_ended_succ Nat.repr_ne_empty).mp ended with before | ⟨s, ends⟩
    · obtain ⟨closed, s, behind, early, ends⟩ := ih before
      exact ⟨closed, s, behind, Nat.lt_succ_of_lt early, ends⟩
    · refine ⟨n, s, ?_, Nat.lt_succ_self n, ends⟩
      obtain ⟨place, _, _, _, found, _⟩ := ends
      by_contra early
      exact not_mem_names (Nat.le_of_not_lt early)
        (List.mem_map.mpr ⟨_, List.mem_of_getElem? found, rfl⟩)

end History

end Endings

/-! ### What a task may rely on -/

variable {α β : Type}

namespace Task

/-- When the task ends, its result and the state that it leaves have the property, if between its
visits the state changes only as it may rely on. What is asked on the way is known, with the
answers. -/
def Assures (rely : σ → σ → Prop) (post : Set (Q × A) → σ → α → Prop) :
    Task σ Q A α → Set (Q × A) → σ → Prop
  | .done a, heard, s => post heard s a
  | .act update next, heard, s => (next s).Assures rely post heard (update s)
  | .wait ready next, heard, s => ∀ s', rely s s' → ready s' = true →
      next.Assures rely post heard s'
  | .call question next, heard, s => ∀ s' a, rely s s' → ∀ s'', rely s' s'' →
      (next a).Assures rely post (insert (question s', a) heard) s''
  | .sleep _ next, heard, s => ∀ s', rely s s' → next.Assures rely post heard s'

namespace Assures

variable {rely : σ → σ → Prop} {post : Set (Q × A) → σ → α → Prop} {t : Task σ Q A α}
  {heard heard' : Set (Q × A)} {s s' : σ}

theorem mono (lasting : ∀ heard heard' s a, heard ⊆ heard' → post heard s a → post heard' s a)
    (assures : t.Assures rely post heard s) (later : heard ⊆ heard') :
    t.Assures rely post heard' s := by
  induction t generalizing heard heard' s with
  | done a => exact lasting heard heard' s a later assures
  | act update next ih => exact ih s assures later
  | wait ready next ih => exact fun s' relied go => ih (assures s' relied go) later
  | call question next ih =>
    exact fun s' a relied s'' behind =>
      ih a (assures s' a relied s'' behind) (Set.insert_subset_insert later)
  | sleep time next ih => exact fun s' relied => ih (assures s' relied) later

theorem bind {post' : Set (Q × A) → σ → β → Prop} {k : α → Task σ Q A β}
    (assures : t.Assures rely post heard s)
    (rest : ∀ heard' s' a, post heard' s' a → (k a).Assures rely post' heard' s') :
    (t.bind k).Assures rely post' heard s := by
  induction t generalizing heard s with
  | done a => exact rest heard s a assures
  | act update next ih => exact ih s assures
  | wait ready next ih => exact fun s' relied go => ih (assures s' relied go)
  | call question next ih =>
    exact fun s' a relied s'' behind => ih a (assures s' a relied s'' behind)
  | sleep time next ih => exact fun s' relied => ih (assures s' relied)

theorem advanceThrough (refl : ∀ s, rely s s) (assures : t.Assures rely post heard s)
    (waits : Nat) :
    (t.advanceThrough waits s).2.Assures rely post heard (t.advanceThrough waits s).1 :=
  advanceBy_keeps_of_ready (fun s t => t.Assures rely post heard s) (fun _ _ _ => id)
    (fun s _ _ go assures => assures s (refl s) go) assures _

end Assures

end Task

namespace History

variable {sys : System σ E Q A R} {h : History sys} {rely : σ → σ → Prop}
  {post : Nat → Set (Q × A) → σ → Option R → Prop} {begun n m : Nat} {task : Task σ Q A (Option R)}

/-- How far a task has come that is yet to end: it has had no visit, or it is under way since its
first one. -/
inductive Stage (h : History sys) (rely : σ → σ → Prop)
    (post : Nat → Set (Q × A) → σ → Option R → Prop) (begun : Nat) (task : Task σ Q A (Option R))
    (n : Nat) : Task σ Q A (Option R) → Prop
  | unopened (relied : rely (h.state (begun + 1)) (h.state n)) : Stage h rely post begun task n task
  | underway (opened : Nat) (t : Task σ Q A (Option R)) (behind : begun < opened)
    (before : opened < n) (runs : h.Runs opened begun.repr task)
    (assures : ∀ s, rely (h.state n) s →
      t.Assures rely (post opened) (Discipline.askedSince h.exchange? opened n) s) :
    Stage h rely post begun task n t

theorem askedSince_succ (opened n : Nat) :
    Discipline.askedSince h.exchange? opened n ⊆
      Discipline.askedSince h.exchange? opened (n + 1) := by
  rintro y ⟨sent, since, early, asked⟩
  exact ⟨sent, since, Nat.lt_succ_of_lt early, asked⟩

/-- All that a task may rely on, and what it then assures. -/
structure Relies (h : History sys) (rely : σ → σ → Prop)
    (post : Nat → Set (Q × A) → σ → Option R → Prop) (begun n : Nat)
    (task : Task σ Q A (Option R)) : Prop where
  begins : h.happens begun = .begin task
  refl : ∀ s, rely s s
  trans : ∀ s s' s'', rely s s' → rely s' s'' → rely s s''
  taken : ∀ s, rely s (sys.started s).2
  lasting : ∀ opened heard heard' s x, heard ⊆ heard' → post opened heard s x →
    post opened heard' s x
  relied : ∀ m, begun < m → m < n → (∀ t, ¬ h.Runs m begun.repr t) →
    rely (h.state m) (h.state (m + 1))
  assures : ∀ opened, begun < opened → rely (h.state (begun + 1)) (h.state opened) →
    task.Assures rely (post opened) ∅ (h.state opened)

namespace Relies

variable (relies : h.Relies rely post begun n task)

include relies

/-- The task at a visit, since its first one. -/
theorem assures_of_stage {t : Task σ Q A (Option R)} (stage : Stage h rely post begun task m t)
    (behind : begun < m) (runs : h.Runs m begun.repr t) :
    ∃ opened, begun < opened ∧ opened ≤ m ∧ h.Runs opened begun.repr task ∧
      t.Assures rely (post opened) (Discipline.askedSince h.exchange? opened m) (h.state m) := by
  cases stage with
  | unopened relied =>
    exact ⟨m, behind, le_rfl, runs,
      (relies.assures m behind relied).mono (relies.lasting m) (Set.empty_subset _)⟩
  | underway opened t behind before first assures =>
    exact ⟨opened, behind, Nat.le_of_lt before, first, assures _ (relies.refl _)⟩

/-- A visit takes the task on, unless it ends it. -/
theorem stage_visited {place waits : Nat} {t : Task σ Q A (Option R)}
    (stage : Stage h rely post begun task m t) (behind : begun < m)
    (happens : h.happens m = .visit place waits)
    (found : (h.pool m).threads[place]? = some (begun.repr, .ready t))
    (further : ∀ x, (t.advanceThrough waits (h.state m)).2 ≠ .done x) :
    (t.advanceThrough waits (h.state m)).2.Resumes
      (fun question a => h.exchange? m = some (question (h.state (m + 1)), a))
      (Stage h rely post begun task (m + 1)) := by
  obtain ⟨opened, after, le, first, assures⟩ :=
    relies.assures_of_stage stage behind ⟨place, waits, happens, found⟩
  have ran := assures.advanceThrough relies.refl waits
  have next : rely (t.advanceThrough waits (h.state m)).1 (h.state (m + 1)) :=
    state_succ_of_visit happens found ▸ relies.taken _
  have underway (rest : Task σ Q A (Option R)) (assures : ∀ s, rely (h.state (m + 1)) s →
      rest.Assures rely (post opened) (Discipline.askedSince h.exchange? opened (m + 1)) s) :
      Stage h rely post begun task (m + 1) rest :=
    .underway opened rest after (Nat.lt_succ_of_le le) first assures
  cases rest : (t.advanceThrough waits (h.state m)).2 with
  | done x => exact absurd rest (further x)
  | act update rest' => exact absurd rest Task.advanceThrough_ne_act
  | wait ready rest' =>
    rw [rest] at ran
    refine underway _ fun s later s' behind' go => ?_
    have relied := relies.trans _ _ _ next (relies.trans _ _ _ later behind')
    exact (ran s' relied go).mono (relies.lasting opened) (askedSince_succ opened m)
  | call question rest' =>
    rw [rest] at ran
    refine fun a asked => underway _ fun s later => ?_
    refine (ran _ a next s later).mono (relies.lasting opened)
      (Set.insert_subset ?_ (askedSince_succ opened m))
    exact ⟨m, le, Nat.lt_succ_self m, asked⟩
  | sleep time rest' =>
    rw [rest] at ran
    refine underway _ fun s later => ?_
    exact (ran s (relies.trans _ _ _ next later)).mono (relies.lasting opened)
      (askedSince_succ opened m)

theorem stage_quiet {t : Task σ Q A (Option R)} (stage : Stage h rely post begun task m t)
    (relied : rely (h.state m) (h.state (m + 1))) : Stage h rely post begun task (m + 1) t := by
  cases stage with
  | unopened before => exact .unopened (relies.trans _ _ _ before relied)
  | underway opened t behind before first assures =>
    refine .underway opened t behind (Nat.lt_succ_of_lt before) first fun s later => ?_
    exact (assures s (relies.trans _ _ _ relied later)).mono (relies.lasting opened)
      (askedSince_succ opened m)

/-- What the task leaves behind when it ends is changed only as it may rely on. -/
theorem rely_of_ends {closed : Nat} {x : Option R} {s : σ} (behind : begun < closed)
    (ends : h.Ends closed begun.repr x s) (before : closed < m) (le : m ≤ n) :
    rely s (h.state m) := by
  induction m, before using Nat.le_induction with
  | base =>
    rw [Nat.succ_eq_add_one, state_succ_of_ends ends]
    exact relies.taken s
  | succ m before ih =>
    refine relies.trans _ _ _ (ih (Nat.le_of_succ_le le)) ?_
    refine relies.relied m (Nat.lt_trans behind before) le ?_
    exact not_runs_of_ends relies.begins ends before

/-- What a task has come to that could rely on all that has happened between its visits. There was
one in which it was opened and one in which it has ended, and what it then left behind has the
property. -/
theorem exists_ends {x : R} (result : h.result? begun n = some x) :
    ∃ opened closed s, begun < opened ∧ opened ≤ closed ∧ closed < n ∧
      h.Runs opened begun.repr task ∧ h.Ends closed begun.repr (some x) s ∧
      post opened (Discipline.askedSince h.exchange? opened closed) s (some x) ∧
      rely s (h.state n) := by
  obtain ⟨closed, s, behind, before, ends⟩ := exists_ends_of_result? result
  have left := tracked (n := closed) (fun m t => m ≤ closed → Stage h rely post begun task m t)
    relies.begins (fun _ => .unopened (relies.refl _)) ?_ ?_ behind
  · have ⟨place, waits, t, happens, found, same⟩ := ends
    have stage := left _ _ (List.mem_of_getElem? found) rfl le_rfl
    obtain ⟨opened, after, le, first, assures⟩ :=
      relies.assures_of_stage stage behind ⟨place, waits, happens, found⟩
    have holds := assures.advanceThrough relies.refl waits
    rw [same] at holds
    exact ⟨opened, closed, s, after, le, before, first, ends, holds,
      relies.rely_of_ends behind ends before le_rfl⟩
  · intro m place waits t lt happens found expected
    by_cases early : m + 1 ≤ closed
    · have visited := relies.stage_visited (expected (Nat.le_of_succ_le early)) lt happens found
        fun y done => ?_
      · exact visited.mono fun _ stage _ => stage
      · obtain ⟨place', waits', t', happens', found', _⟩ := ends
        exact not_runs_of_ends relies.begins ⟨place, waits, t, happens, found, Prod.ext rfl done⟩
          early t' ⟨place', waits', happens', found'⟩
    · refine .of_holds (fun late => absurd late early) (fun _ _ _ _ _ late => absurd late early)
        fun _ _ _ late => absurd late early
  · intro m t lt quiet expected early
    exact relies.stage_quiet (expected (Nat.le_of_succ_le early))
      (relies.relied m lt (Nat.lt_of_succ_lt (Nat.lt_of_le_of_lt early before)) quiet)

end Relies

end History

end DbConsole

import DbConsole.Proofs.Task.Visit
import Mathlib

/-!
Histories of a pool: tasks are begun, visited and answered, and the state also changes by itself. Each
task has the number of what began it for its name, so it can be told from all others. A name that one
task has alone stays its own, and what is known of that task changes only where it is visited itself, or
where the others make a difference to it.
-/
set_option autoImplicit false

namespace DbConsole.Pool

variable {σ E Q A R : Type} {sys : System σ E Q A R} {p q : Pool σ E Q A R} {name : String}

def names (p : Pool σ E Q A R) : List String :=
  p.threads.map Prod.fst

/-- No two tasks have the name. -/
def Sole (p : Pool σ E Q A R) (name : String) : Prop :=
  p.names.Pairwise fun one other => ¬ (one = name ∧ other = name)

/-! ### Names -/

theorem names_spawn (other : String) (t : Task σ Q A (Option R)) :
    (p.spawn other t).names = p.names ++ [other] :=
  List.map_append

theorem names_release (gate : String) : (p.release gate).names = p.names := by
  rw [names, release, List.map_map]
  refine List.map_congr_left fun ⟨other, th⟩ _ => ?_
  cases th with
  | held g t =>
    dsimp only [Function.comp]
    split <;> rfl
  | _ => rfl

theorem names_wake (time : Nat) : (p.wake time).names = p.names := by
  rw [names, wake, List.map_map]
  refine List.map_congr_left fun ⟨other, th⟩ _ => ?_
  cases th with
  | asleep at_ t =>
    dsimp only [Function.comp]
    split <;> rfl
  | _ => rfl

theorem names_tidy : p.tidy.names.Sublist p.names :=
  List.filter_sublist.map Prod.fst

theorem names_setThread (place : Nat) (th : Thread σ Q A R) :
    (p.setThread place th).names = p.names := by
  refine List.ext_getElem? fun i => ?_
  rw [names, names, setThread, List.getElem?_map, List.getElem?_map, List.getElem?_modify]
  cases p.threads[i]? with
  | none => rfl
  | some q =>
    rw [Option.map_eq_map, Option.map_some, Option.map_some, Option.map_some]
    split <;> rfl

theorem names_suspend (t : Task σ Q A (Option R)) : (p.suspend sys t).1.names = p.names := by
  rw [names, threads_suspend, names]

/-- What the state has started has no name. -/
theorem names_proceed (s : σ) :
    (p.proceed sys s).names = p.names ++ List.replicate (sys.started s).1.length "" := by
  rw [names, proceed, List.map_append, List.map_map]
  exact congrArg _ List.map_const'

theorem exists_names_visit (sys : System σ E Q A R) (p : Pool σ E Q A R) (place waits : Nat) :
    ∃ count, (p.visit sys place waits).names = p.names ++ List.replicate count "" := by
  by_cases ready : ∃ visited t, p.threads[place]? = some (visited, .ready t)
  · obtain ⟨visited, t, found⟩ := ready
    rw [visit_of_ready found, names_setThread, names_suspend, names_proceed]
    exact ⟨_, rfl⟩
  · rw [(visit_of_not_ready fun visited t found => ready ⟨visited, t, found⟩).1]
    exact ⟨0, (List.append_nil _).symm⟩

/-! ### Soleness -/

theorem Sole.eq_of_getElem? (sole : p.Sole name) {i j : Nat} {th th' : Thread σ Q A R}
    (found : p.threads[i]? = some (name, th)) (found' : p.threads[j]? = some (name, th')) :
    i = j := by
  have nameAt {k : Nat} {th : Thread σ Q A R} (found : p.threads[k]? = some (name, th)) :
      ∃ bound : k < p.names.length, p.names[k] = name := by
    refine List.getElem?_eq_some_iff.mp ?_
    rw [names, List.getElem?_map, found]
    rfl
  obtain ⟨bound, atI⟩ := nameAt found
  obtain ⟨bound', atJ⟩ := nameAt found'
  have apart := List.pairwise_iff_getElem.mp sole
  rcases Nat.lt_trichotomy i j with lt | same | lt
  · exact absurd ⟨atI, atJ⟩ (apart i j bound bound' lt)
  · exact same
  · exact absurd ⟨atJ, atI⟩ (apart j i bound' bound lt)

namespace Sole

theorem of_names (sole : p.Sole name) (same : q.names = p.names) : q.Sole name := by
  rw [Sole, same]
  exact sole

theorem spawn (sole : p.Sole name) {other : String} (apart : other ≠ name)
    (t : Task σ Q A (Option R)) : (p.spawn other t).Sole name := by
  rw [Sole, names_spawn, List.pairwise_append]
  refine ⟨sole, List.pairwise_singleton _ _, fun _ _ last member both => ?_⟩
  exact apart ((List.mem_singleton.mp member).symm.trans both.2)

theorem spawned (absent : name ∉ p.names) (t : Task σ Q A (Option R)) :
    (p.spawn name t).Sole name := by
  rw [Sole, names_spawn, List.pairwise_append]
  refine ⟨?_, List.pairwise_singleton _ _, fun _ member _ _ both => absent (both.1 ▸ member)⟩
  exact List.pairwise_of_forall_mem_list fun _ member _ _ both => absent (both.1 ▸ member)

theorem tidy (sole : p.Sole name) : p.tidy.Sole name :=
  sole.sublist names_tidy

theorem visit (sole : p.Sole name) (named : name ≠ "") (place waits : Nat) :
    (p.visit sys place waits).Sole name := by
  obtain ⟨count, same⟩ := exists_names_visit sys p place waits
  rw [Sole, same, List.pairwise_append]
  refine ⟨sole, ?_, fun _ _ last member both => ?_⟩
  · exact List.pairwise_of_forall_mem_list fun _ member _ _ both =>
      named (both.1.symm.trans (List.eq_of_mem_replicate member))
  · exact named (both.2.symm.trans (List.eq_of_mem_replicate member))

end Sole

end DbConsole.Pool

namespace DbConsole

variable {σ E Q A R : Type}

/-- What a suspended task goes on with has the property, given which answers its question can have. -/
def Task.Resumes {α : Type} (answers : (σ → Q) → A → Prop) (holds : Task σ Q A α → Prop) :
    Task σ Q A α → Prop
  | .call question next => ∀ a, answers question a → holds (next a)
  | .sleep _ next => holds next
  | t => holds t

theorem Task.Resumes.of_holds {α : Type} {answers : (σ → Q) → A → Prop}
    {holds : Task σ Q A α → Prop} {t : Task σ Q A α} (held : holds t)
    (called : ∀ question next a, holds (.call question next) → answers question a →
      holds (next a))
    (slept : ∀ time next, holds (.sleep time next) → holds next) : t.Resumes answers holds := by
  cases t with
  | call question next => exact fun a answered => called question next a held answered
  | sleep time next => exact slept time next held
  | _ => exact held

theorem Task.Resumes.mono {α : Type} {answers : (σ → Q) → A → Prop}
    {holds holds' : Task σ Q A α → Prop} {t : Task σ Q A α} (resumes : t.Resumes answers holds)
    (weaker : ∀ t, holds t → holds' t) : t.Resumes answers holds' := by
  cases t with
  | call question next => exact fun a answered => weaker _ (resumes a answered)
  | _ => exact weaker _ resumes

/-- A task goes on making changes of its kind. -/
theorem Task.Within.resumes {α : Type} {changes : σ → σ → Prop} {t : Task σ Q A α}
    (within_ : t.Within changes) (refl : ∀ s, changes s s)
    (trans : ∀ s s' s'', changes s s' → changes s' s'' → changes s s'')
    (answers : (σ → Q) → A → Prop) (waits : Nat) (s : σ) :
    (t.advanceThrough waits s).2.Resumes answers fun t => t.Within changes :=
  .of_holds (within_.advanceThrough refl trans waits s).2 (fun _ _ a every _ => every a)
    fun _ _ => id

namespace Pool

/-- What happens next to a pool. -/
inductive Event (σ E Q A R : Type) where
  | begin (task : Task σ Q A (Option R))
  | visit (place waits : Nat)
  | release (gate : String)
  | wake (time : Nat)
  | tidy
  /-- The state changes by itself. -/
  | drift (f : σ → σ)
  /-- The outside changes by itself. -/
  | outside (f : E → E)

def Event.apply (sys : System σ E Q A R) (number : Nat) :
    Event σ E Q A R → Pool σ E Q A R → Pool σ E Q A R
  | .begin task, p => p.spawn number.repr task
  | .visit place waits, p => p.visit sys place waits
  | .release gate, p => p.release gate
  | .wake time, p => p.wake time
  | .tidy, p => p.tidy
  | .drift f, p => { p with state := f p.state }
  | .outside f, p => { p with world := f p.world }

variable {sys : System σ E Q A R} {p : Pool σ E Q A R} {place waits : Nat} {name : String}
  {t : Task σ Q A (Option R)}

/-- Where the visited task has got to. -/
theorem left_of_resumes {kept : Task σ Q A (Option R) → Prop}
    (found : p.threads[place]? = some (name, .ready t))
    (resumes : (t.advanceThrough waits p.state).2.Resumes (fun question a =>
      p.asked? sys place waits = some (question (p.visit sys place waits).state, a)) kept) :
    ((p.proceed sys (t.advanceThrough waits p.state).1).suspend sys
      (t.advanceThrough waits p.state).2).2.Left kept := by
  rw [state_visit found, asked?_of_ready found] at resumes
  cases rest : (t.advanceThrough waits p.state).2 with
  | call question next =>
    rw [rest] at resumes
    exact left_suspend _ (fun apart => absurd rfl (apart question next))
      (fun _ _ a same asked => by cases same; exact resumes a asked) nofun
  | sleep time next =>
    rw [rest] at resumes
    exact resumes
  | _ =>
    rw [rest] at resumes
    exact resumes

/-- What is left of each task when one of them has been visited: of that one what it goes on with, of
the others what was left of them. -/
theorem AllLeft.visit_resumes {holds holds' : String → Task σ Q A (Option R) → Prop}
    (all : p.AllLeft holds) (found : p.threads[place]? = some (name, .ready t))
    (sole : ∀ i, i ≠ place → ∀ other th, p.threads[i]? = some (other, th) →
      th.Left (holds other) → th.Left (holds' other))
    (resumes : (t.advanceThrough waits p.state).2.Resumes (fun question a =>
      p.asked? sys place waits = some (question (p.visit sys place waits).state, a)) (holds' name))
    (started : ∀ t' ∈ (sys.started (t.advanceThrough waits p.state).1).1, holds' "" t') :
    (p.visit sys place waits).AllLeft holds' := by
  intro other th member
  obtain ⟨i, at_i⟩ := List.mem_iff_getElem?.mp member
  rw [getElem?_visit found] at at_i
  split at at_i
  · cases at_i
    exact left_of_resumes found resumes
  · rename_i apart
    by_cases old : i < p.threads.length
    · have there : p.threads[i]? = some p.threads[i] := List.getElem?_eq_getElem old
      rw [getElem?_proceed there] at at_i
      have here := there.trans at_i
      refine sole i (fun same => apart same.symm) _ _ here ?_
      exact all _ _ (List.mem_of_getElem? here)
    · rw [Pool.proceed, List.getElem?_append_right (Nat.le_of_not_lt old)] at at_i
      obtain ⟨t', among, same⟩ := List.mem_map.mp (List.mem_of_getElem? at_i)
      cases same
      exact started t' among

end Pool

/-- The life of a pool from a state in which no task runs. -/
structure History (sys : System σ E Q A R) where
  start : σ
  world : E
  happens : Nat → Pool.Event σ E Q A R

namespace History

variable {sys : System σ E Q A R} (h : History sys)

def pool : Nat → Pool σ E Q A R
  | 0 => .init h.start h.world
  | n + 1 => (h.happens n).apply sys n (pool n)

theorem pool_succ (n : Nat) : h.pool (n + 1) = (h.happens n).apply sys n (h.pool n) := rfl

def state (n : Nat) : σ :=
  (h.pool n).state

/-- What the task that was begun there has come to. -/
def result? (begun n : Nat) : Option R :=
  (h.pool n).result? begun.repr

/-- What is asked at a point, with the answer to it. -/
def exchange? (n : Nat) : Option (Q × A) :=
  match h.happens n with
  | .visit place waits => (h.pool n).asked? sys place waits
  | _ => none

/-- The question that is put at a point, behind the name of the task that puts it. -/
def sent? (n : Nat) : Option (String × Q) :=
  match h.happens n with
  | .visit place waits => (h.pool n).sends? sys place waits
  | _ => none

/-- What is left of the task of the name has a visit. -/
def Runs (n : Nat) (name : String) (t : Task σ Q A (Option R)) : Prop :=
  ∃ place waits, h.happens n = .visit place waits ∧
    (h.pool n).threads[place]? = some (name, .ready t)

variable {h} {n place waits : Nat} {name : String} {t : Task σ Q A (Option R)}

theorem state_succ_of_visit (happens : h.happens n = .visit place waits)
    (found : (h.pool n).threads[place]? = some (name, .ready t)) :
    h.state (n + 1) = (sys.started (t.advanceThrough waits (h.state n)).1).2 := by
  rw [state, pool_succ, happens, Pool.Event.apply, Pool.state_visit found, state]

theorem state_succ_of_drift {f : σ → σ} (happens : h.happens n = .drift f) :
    h.state (n + 1) = f (h.state n) := by
  rw [state, pool_succ, happens]
  rfl

/-- Only visits and changes of the state by itself change it. -/
theorem state_succ_of_still (quiet : ∀ name t, ¬ h.Runs n name t)
    (still : ∀ f, h.happens n ≠ .drift f) : h.state (n + 1) = h.state n := by
  rw [state, pool_succ, state]
  cases happens : h.happens n with
  | visit place waits =>
    have none (name : String) (t : Task σ Q A (Option R)) :
        (h.pool n).threads[place]? ≠ some (name, .ready t) :=
      fun found => quiet name t ⟨place, waits, happens, found⟩
    rw [Pool.Event.apply, (Pool.visit_of_not_ready none).1]
  | drift f => exact absurd happens (still f)
  | _ => rfl

/-- What is put is the question of a task that has a visit and gets to it. -/
theorem exists_call_of_sent? {q : Q} (sent : h.sent? n = some (name, q)) :
    ∃ place waits t question next, h.happens n = .visit place waits ∧
      (h.pool n).threads[place]? = some (name, .ready t) ∧
      (t.advanceThrough waits (h.state n)).2 = .call question next ∧
      q = question (h.state (n + 1)) := by
  unfold sent? at sent
  cases happens : h.happens n with
  | visit place waits =>
    rw [happens] at sent
    obtain ⟨t, question, next, found, left, same⟩ := Pool.exists_call_of_sends? sent
    refine ⟨place, waits, t, question, next, rfl, found, left, same.trans ?_⟩
    rw [state_succ_of_visit happens found]
    rfl
  | _ =>
    rw [happens] at sent
    cases sent

theorem sent?_of_call {question : σ → Q} {next : A → Task σ Q A (Option R)}
    (happens : h.happens n = .visit place waits)
    (found : (h.pool n).threads[place]? = some (name, .ready t))
    (left : (t.advanceThrough waits (h.state n)).2 = .call question next) :
    h.sent? n = some (name, question (h.state (n + 1))) := by
  have left' : (t.advanceThrough waits (h.pool n).state).2 = _ := left
  rw [state_succ_of_visit happens found, sent?, happens]
  simp only [Pool.sends?, found, left']
  rfl

/-! ### What is left of the tasks -/

/-- What is left of each task, behind whatever happens: new tasks come by what is begun and by what
the state has had started, and old ones get less by visits alone. -/
theorem allLeft_succ {holds holds' : String → Task σ Q A (Option R) → Prop}
    (all : (h.pool n).AllLeft holds) (later : ∀ name t, holds name t → holds' name t)
    (begun : ∀ t, h.happens n = .begin t → holds' n.repr t)
    (visited : ∀ place waits name t, h.happens n = .visit place waits →
      (h.pool n).threads[place]? = some (name, .ready t) → holds name t →
      (t.advanceThrough waits (h.state n)).2.Resumes (fun question a =>
        h.exchange? n = some (question (h.state (n + 1)), a)) (holds' name))
    (started : ∀ s, ∀ t ∈ (sys.started s).1, holds' "" t) : (h.pool (n + 1)).AllLeft holds' := by
  have kept := all.mono later
  simp only [state, exchange?, pool_succ] at visited ⊢
  cases happens : h.happens n with
  | begin t => exact kept.spawn _ _ (begun t happens)
  | visit place waits =>
    by_cases ready : ∃ name t, (h.pool n).threads[place]? = some (name, .ready t)
    · obtain ⟨name, t, found⟩ := ready
      refine all.visit_resumes found (fun _ _ other th _ left => left.mono (later other)) ?_
        (started _)
      have resumes := visited place waits name t happens found
        (all name _ (List.mem_of_getElem? found))
      rw [happens] at resumes
      exact resumes
    · rw [Pool.Event.apply, (Pool.visit_of_not_ready fun name t found => ready ⟨name, t, found⟩).1]
      exact kept
  | release gate => exact kept.release gate
  | wake time => exact kept.wake time
  | tidy => exact kept.tidy
  | drift f => exact kept
  | outside f => exact kept

/-! ### One task from its beginning to its end -/

theorem mem_names_succ (member : name ∈ (h.pool (n + 1)).names) :
    name ∈ (h.pool n).names ∨ name = n.repr ∨ name = "" := by
  rw [pool_succ] at member
  cases happens : h.happens n with
  | begin t =>
    rw [happens, Pool.Event.apply, Pool.names_spawn] at member
    exact (List.mem_append.mp member).imp id fun last => Or.inl (List.mem_singleton.mp last)
  | visit place waits =>
    obtain ⟨count, same⟩ := Pool.exists_names_visit sys (h.pool n) place waits
    rw [happens, Pool.Event.apply, same] at member
    exact (List.mem_append.mp member).imp id fun last => Or.inr (List.eq_of_mem_replicate last)
  | release gate =>
    rw [happens, Pool.Event.apply, Pool.names_release] at member
    exact Or.inl member
  | wake time =>
    rw [happens, Pool.Event.apply, Pool.names_wake] at member
    exact Or.inl member
  | tidy =>
    rw [happens] at member
    exact Or.inl (Pool.names_tidy.subset member)
  | drift f =>
    rw [happens] at member
    exact Or.inl member
  | outside f =>
    rw [happens] at member
    exact Or.inl member

/-- Nobody has the name of a task that is yet to begin. -/
theorem not_mem_names {begun : Nat} (le : n ≤ begun) : begun.repr ∉ (h.pool n).names := by
  induction n with
  | zero => exact List.not_mem_nil
  | succ n ih =>
    intro member
    rcases mem_names_succ member with before | same | unnamed
    · exact ih (Nat.le_of_succ_le le) before
    · exact Nat.ne_of_gt le (Nat.repr_injective same)
    · exact Nat.repr_ne_empty unnamed

theorem absent {begun : Nat} (le : n ≤ begun) :
    (h.pool n).AllLeft fun name _ => name ≠ begun.repr := by
  intro name th member
  have apart : name ≠ begun.repr := fun same =>
    not_mem_names le (same ▸ List.mem_map.mpr ⟨(name, th), member, rfl⟩)
  cases th with
  | lost => trivial
  | _ => exact apart

theorem lt_of_result? {begun : Nat} {x : R} (result : h.result? begun n = some x) : begun < n := by
  by_contra early
  exact absent (Nat.le_of_not_lt early) _ _ (Pool.mem_of_result? result) rfl

theorem sole_succ (sole : (h.pool n).Sole name) (named : name ≠ "") (apart : n.repr ≠ name) :
    (h.pool (n + 1)).Sole name := by
  rw [pool_succ]
  cases h.happens n with
  | begin t => exact sole.spawn apart _
  | visit place waits => exact sole.visit named place waits
  | release gate => exact sole.of_names (Pool.names_release gate)
  | wake time => exact sole.of_names (Pool.names_wake time)
  | tidy => exact sole.tidy
  | drift f => exact sole.of_names rfl
  | outside f => exact sole.of_names rfl

variable {begun : Nat} {task : Task σ Q A (Option R)}

theorem sole (begins : h.happens begun = .begin task) (lt : begun < n) :
    (h.pool n).Sole begun.repr := by
  induction n, lt using Nat.le_induction with
  | base =>
    rw [Nat.succ_eq_add_one, pool_succ, begins]
    exact .spawned (not_mem_names le_rfl) _
  | succ n lt ih =>
    exact sole_succ ih Nat.repr_ne_empty fun same => Nat.ne_of_gt lt (Nat.repr_injective same)

/-- What is left of a task, behind whatever happens: if it is visited, what it goes on with, and else
what all else has left true of it. -/
theorem left_succ {holds holds' : Task σ Q A (Option R) → Prop}
    (begins : h.happens begun = .begin task) (lt : begun < n)
    (left : (h.pool n).AllLeft fun name t => name = begun.repr → holds t)
    (mine : ∀ place waits t, h.happens n = .visit place waits →
      (h.pool n).threads[place]? = some (begun.repr, .ready t) → holds t →
      (t.advanceThrough waits (h.state n)).2.Resumes (fun question a =>
        h.exchange? n = some (question (h.state (n + 1)), a)) holds')
    (others : (∀ t, ¬ h.Runs n begun.repr t) → ∀ t, holds t → holds' t) :
    (h.pool (n + 1)).AllLeft fun name t => name = begun.repr → holds' t := by
  have named : begun.repr ≠ "" := Nat.repr_ne_empty
  by_cases runs : ∃ t, h.Runs n begun.repr t
  · obtain ⟨t, place, waits, happens, found⟩ := runs
    have held : holds t := left begun.repr _ (List.mem_of_getElem? found) rfl
    have resumes := mine place waits t happens found held
    rw [exchange?, state, pool_succ, happens] at resumes
    rw [pool_succ, happens]
    refine left.visit_resumes found (fun i away other th at_i _ => ?_) ?_ fun _ _ => ?_
    · cases th with
      | lost => trivial
      | _ => exact fun same => absurd ((sole begins lt).eq_of_getElem? (same ▸ at_i) found) away
    · exact resumes.mono fun _ held _ => held
    · exact fun same => absurd same.symm named
  · have kept := others fun t runs' => runs ⟨t, runs'⟩
    have apart : n.repr ≠ begun.repr := fun same => Nat.ne_of_gt lt (Nat.repr_injective same)
    refine allLeft_succ left (fun _ _ held same => kept _ (held same))
      (fun _ _ same => absurd same apart) ?_ fun _ _ _ same => absurd same.symm named
    intro place waits other t happens found _
    have away : other ≠ begun.repr := fun same => runs ⟨t, place, waits, happens, same ▸ found⟩
    exact .of_holds (fun same => absurd same away) (fun _ _ _ _ _ same => absurd same away)
      fun _ _ _ same => absurd same away

/-- What is left of a task at each point, if each visit to it leaves what is expected at the next
point, and all else leaves true what is expected of it. -/
theorem tracked (expected : Nat → Task σ Q A (Option R) → Prop)
    (begins : h.happens begun = .begin task) (first : expected (begun + 1) task)
    (mine : ∀ n place waits t, begun < n → h.happens n = .visit place waits →
      (h.pool n).threads[place]? = some (begun.repr, .ready t) → expected n t →
      (t.advanceThrough waits (h.state n)).2.Resumes (fun question a =>
        h.exchange? n = some (question (h.state (n + 1)), a)) (expected (n + 1)))
    (others : ∀ n t, begun < n → (∀ t', ¬ h.Runs n begun.repr t') → expected n t →
      expected (n + 1) t) (lt : begun < n) :
    (h.pool n).AllLeft fun name t => name = begun.repr → expected n t := by
  induction n, lt using Nat.le_induction with
  | base =>
    rw [Nat.succ_eq_add_one, pool_succ, begins]
    have none : (h.pool begun).AllLeft fun name t =>
        name = begun.repr → expected (begun + 1) t :=
      (absent le_rfl).mono fun _ _ apart same => absurd same apart
    exact none.spawn _ _ fun _ => first
  | succ n lt ih =>
    refine left_succ begins lt ih ?_ ?_
    · exact fun place waits t happens found => mine n place waits t lt happens found
    · exact fun quiet t => others n t lt quiet

/-! ### Changes of one kind -/

/-- All that happens changes the state in one way, and such changes follow each other. -/
structure Within (h : History sys) (changes : σ → σ → Prop) : Prop where
  refl : ∀ s, changes s s
  trans : ∀ s s' s'', changes s s' → changes s' s'' → changes s s''
  begun : ∀ n t, h.happens n = .begin t → t.Within changes
  drifts : ∀ n f, h.happens n = .drift f → ∀ s, changes s (f s)
  taken : ∀ s, changes s (sys.started s).2
  started : ∀ s, ∀ t ∈ (sys.started s).1, t.Within changes

namespace Within

variable {changes : σ → σ → Prop}

theorem left (within_ : h.Within changes) (n : Nat) :
    (h.pool n).AllLeft fun _ t => t.Within changes := by
  induction n with
  | zero => exact .init _ _
  | succ n ih =>
    refine allLeft_succ ih (fun _ _ => id) (within_.begun n) ?_ within_.started
    exact fun place waits _ t _ _ held =>
      held.resumes within_.refl within_.trans _ waits (h.state n)

theorem advanceThrough (within_ : h.Within changes)
    (found : (h.pool n).threads[place]? = some (name, .ready t)) :
    changes (h.state n) (t.advanceThrough waits (h.state n)).1 := by
  have held := within_.left n name _ (List.mem_of_getElem? found)
  exact (Task.Within.advanceThrough held within_.refl within_.trans waits (h.state n)).1

theorem succ (within_ : h.Within changes) (n : Nat) : changes (h.state n) (h.state (n + 1)) := by
  by_cases runs : ∃ name t, h.Runs n name t
  · obtain ⟨name, t, place, waits, happens, found⟩ := runs
    rw [state_succ_of_visit happens found]
    exact within_.trans _ _ _ (within_.advanceThrough found) (within_.taken _)
  · by_cases drifts : ∃ f, h.happens n = .drift f
    · obtain ⟨f, happens⟩ := drifts
      rw [state_succ_of_drift happens]
      exact within_.drifts n f happens _
    · rw [state_succ_of_still (fun name t run => runs ⟨name, t, run⟩)
        fun f happens => drifts ⟨f, happens⟩]
      exact within_.refl _

/-- What comes later has come by such changes. -/
theorem between (within_ : h.Within changes) {m : Nat} (le : n ≤ m) :
    changes (h.state n) (h.state m) := by
  induction m, le using Nat.le_induction with
  | base => exact within_.refl _
  | succ m _ ih => exact within_.trans _ _ _ ih (within_.succ m)

end Within

end History

end DbConsole

import DbConsole.Proofs.Task.Rely

/-!
Two histories in which the same happens, but that a task of the one goes on where it ends in the other. As
long as what it goes on with is over at once, one history is the other, but for what the task comes to.
-/
set_option autoImplicit false

namespace DbConsole

variable {σ E Q A R : Type}

/-- A visit to a task that goes on is one to its first part, if that has not come to its end or what
comes behind is over at once. -/
theorem Task.advanceThrough_bind {α β : Type} {t : Task σ Q A α} {k : α → Task σ Q A β} {waits : Nat}
    {s : σ} (ends : ∀ a, (t.advanceThrough waits s).2 = .done a → ∃ b, k a = .done b) :
    (t.bind k).advanceThrough waits s =
      ((t.advanceThrough waits s).1, (t.advanceThrough waits s).2.bind k) := by
  induction t generalizing waits s with
  | done a =>
    rw [advanceThrough_done] at ends ⊢
    obtain ⟨b, same⟩ := ends a rfl
    change (k a).advanceThrough waits s = (s, k a)
    rw [same, advanceThrough_done]
  | act update next ih =>
    rw [advanceThrough_act] at ends ⊢
    exact (advanceThrough_act waits s update _).trans (ih s ends)
  | wait ready next ih =>
    cases waits with
    | zero => rfl
    | succ waits =>
      by_cases go : ready s
      · have through {γ : Type} (next : Task σ Q A γ) :
            (.wait ready next : Task σ Q A γ).advanceThrough (waits + 1) s =
              next.advanceThrough waits s := by
          rw [advanceThrough, reach, if_pos go, advanceBy, if_pos go, advanceThrough]
        rw [through] at ends ⊢
        exact (through _).trans (ih ends)
      · have stays {γ : Type} (next : Task σ Q A γ) :
            (.wait ready next : Task σ Q A γ).advanceThrough (waits + 1) s =
              (s, .wait ready next) := by
          rw [advanceThrough, reach, if_neg go]
          rfl
        rw [stays]
        exact stays _
  | call question next _ =>
    rw [advanceThrough_call]
    exact advanceThrough_call waits s question _
  | sleep time next _ => cases waits <;> rfl

/-- The thread when its task goes on; what comes behind its end makes something else of the result. -/
def Thread.onward (k : Option R → Task σ Q A (Option R)) (last : Option R → Option R) :
    Thread σ Q A R → Thread σ Q A R
  | .ready t => .ready (t.bind k)
  | .held gate t => .held gate (t.bind k)
  | .asleep wakeAt t => .asleep wakeAt (t.bind k)
  | .lost => .lost
  | .ended r => .ended (last r)

namespace Pool

variable {sys : System σ E Q A R} {p : Pool σ E Q A R} {name : String}
  {k : Option R → Task σ Q A (Option R)} {last : Option R → Option R}

/-- The pool when the task of the name goes on. -/
def onward (name : String) (k : Option R → Task σ Q A (Option R)) (last : Option R → Option R)
    (p : Pool σ E Q A R) : Pool σ E Q A R :=
  { p with threads := p.threads.map fun q => (q.1, if q.1 = name then q.2.onward k last else q.2) }

theorem onward_spawn (t : Task σ Q A (Option R)) :
    (p.spawn name t).onward name k last = (p.onward name k last).spawn name (t.bind k) := by
  simp [onward, spawn, Thread.onward]

theorem onward_spawn_of_ne {other : String} (apart : other ≠ name) (t : Task σ Q A (Option R)) :
    (p.spawn other t).onward name k last = (p.onward name k last).spawn other t := by
  simp [onward, spawn, apart]

theorem onward_release (gate : String) :
    (p.release gate).onward name k last = (p.onward name k last).release gate := by
  simp only [onward, release, List.map_map]
  refine congrArg (Pool.mk _ _ · _ _) (List.map_congr_left fun q _ => ?_)
  obtain ⟨other, th⟩ := q
  cases th with
  | held g t =>
    by_cases opened : g = gate <;> by_cases mine : other = name <;>
      simp [Thread.onward, opened, mine]
  | _ => by_cases mine : other = name <;> simp [Thread.onward, mine]

theorem onward_wake (time : Nat) :
    (p.wake time).onward name k last = (p.onward name k last).wake time := by
  simp only [onward, wake, List.map_map]
  refine congrArg (Pool.mk _ _ · _ _) (List.map_congr_left fun q _ => ?_)
  obtain ⟨other, th⟩ := q
  cases th with
  | asleep at_ t =>
    by_cases woken : at_ ≤ time <;> by_cases mine : other = name <;>
      simp [Thread.onward, woken, mine]
  | _ => by_cases mine : other = name <;> simp [Thread.onward, mine]

theorem onward_tidy : p.tidy.onward name k last = (p.onward name k last).tidy := by
  simp only [onward, tidy, List.filter_map]
  refine congrArg (Pool.mk _ _ · _ _) (congrArg _ (List.filter_congr fun q _ => ?_))
  obtain ⟨other, th⟩ := q
  cases th <;> by_cases mine : other = name <;> simp [Thread.onward, mine]

theorem onward_proceed (named : name ≠ "") (s : σ) :
    (p.proceed sys s).onward name k last = (p.onward name k last).proceed sys s := by
  simp [onward, proceed, named.symm]

theorem onward_answered (answer : Answer A) (next : A → Task σ Q A (Option R)) :
    (p.onward name k last).answered answer (fun a => (next a).bind k) =
      (p.answered answer next).onward k last := by
  cases answer with
  | behind gate a => by_cases opened : gate ∈ p.openGates <;> simp [answered, onward, opened, Thread.onward]
  | _ => rfl

/-- Where the task goes that is suspended. -/
theorem onward_suspend {t : Task σ Q A (Option R)} (ends : ∀ r, t = .done r → k r = .done (last r)) :
    (p.onward name k last).suspend sys (t.bind k) =
      ((p.suspend sys t).1.onward name k last, (p.suspend sys t).2.onward k last) := by
  cases t with
  | done r =>
    rw [Task.bind, ends r rfl]
    rfl
  | call question next => exact Prod.ext rfl (onward_answered _ next)
  | _ => rfl

theorem onward_suspend_other {t : Task σ Q A (Option R)} :
    (p.onward name k last).suspend sys t = ((p.suspend sys t).1.onward name k last, (p.suspend sys t).2) := by
  cases t <;> rfl

theorem onward_setThread {place : Nat} {other : String} {th : Thread σ Q A R}
    (found : p.threads[place]? = some (other, th)) (new : Thread σ Q A R) :
    (p.setThread place new).onward name k last =
      (p.onward name k last).setThread place (if other = name then new.onward k last else new) := by
  refine congrArg (Pool.mk _ _ · _ _) (List.ext_getElem? fun i => ?_)
  simp only [setThread, List.getElem?_map, List.getElem?_modify, onward]
  by_cases here : place = i
  · subst here
    simp [found]
  · simp [here]

theorem getElem?_onward {place : Nat} {other : String} {th : Thread σ Q A R}
    (found : p.threads[place]? = some (other, th)) (name : String)
    (k : Option R → Task σ Q A (Option R)) (last : Option R → Option R) :
    (p.onward name k last).threads[place]? =
      some (other, if other = name then th.onward k last else th) := by
  rw [onward, List.getElem?_map, found]
  rfl

theorem exists_ready_of_onward {place : Nat} {other : String} {t' : Task σ Q A (Option R)}
    (found : (p.onward name k last).threads[place]? = some (other, .ready t')) :
    ∃ t, p.threads[place]? = some (other, .ready t) := by
  rw [onward, List.getElem?_map] at found
  obtain ⟨⟨visited, th⟩, there, same⟩ := Option.map_eq_some_iff.mp found
  obtain ⟨rfl, here⟩ := Prod.mk.inj same
  split at here
  · cases th <;> cases here
    exact ⟨_, there⟩
  · exact ⟨t', here ▸ there⟩

theorem mem_onward {r : Option R} (ended : (name, .ended r) ∈ p.threads) :
    (name, .ended (last r)) ∈ (p.onward name k last).threads :=
  List.mem_map.mpr ⟨_, ended, by rw [if_pos rfl, Thread.onward]⟩

/-- A visit does the same if its task gets equally far. -/
theorem onward_visit_of_suspend (named : name ≠ "") {place waits : Nat} {visited : String}
    {t t' rest : Task σ Q A (Option R)} (found : p.threads[place]? = some (visited, .ready t))
    (found' : (p.onward name k last).threads[place]? = some (visited, .ready t'))
    (same : t'.advanceThrough waits p.state = ((t.advanceThrough waits p.state).1, rest))
    (suspends : ∀ q : Pool σ E Q A R, (q.onward name k last).suspend sys rest =
      ((q.suspend sys (t.advanceThrough waits p.state).2).1.onward name k last,
        if visited = name then (q.suspend sys (t.advanceThrough waits p.state).2).2.onward k last
        else (q.suspend sys (t.advanceThrough waits p.state).2).2)) :
    (p.onward name k last).visit sys place waits = (p.visit sys place waits).onward name k last := by
  have same' : t'.advanceThrough waits (p.onward name k last).state = _ := same
  have there : ((p.proceed sys (t.advanceThrough waits p.state).1).suspend sys
      (t.advanceThrough waits p.state).2).1.threads[place]? = some (visited, .ready t) := by
    rw [threads_suspend]
    exact getElem?_proceed found _
  rw [visit_of_ready found, visit_of_ready found', same', onward_setThread there,
    ← onward_proceed named, suspends]

/-- A visit does and asks the same, unless it brings the task to its end and it goes on from there. -/
theorem onward_visit (named : name ≠ "") {place waits : Nat}
    (ends : ∀ t r, p.threads[place]? = some (name, .ready t) →
      (t.advanceThrough waits p.state).2 = .done r → k r = .done (last r)) :
    (p.onward name k last).visit sys place waits = (p.visit sys place waits).onward name k last ∧
      (p.onward name k last).sends? sys place waits = p.sends? sys place waits := by
  by_cases ready : ∃ visited t, p.threads[place]? = some (visited, .ready t)
  · obtain ⟨visited, t, found⟩ := ready
    have found' := getElem?_onward found name k last
    by_cases mine : visited = name
    · subst mine
      rw [if_pos rfl, Thread.onward] at found'
      have same := Task.advanceThrough_bind (k := k) fun r done => ⟨last r, ends t r found done⟩
      refine ⟨onward_visit_of_suspend named found found' same fun q => ?_, ?_⟩
      · rw [if_pos rfl]
        exact onward_suspend fun r => ends t r found
      · have same' : (t.bind k).advanceThrough waits (p.onward visited k last).state = _ := same
        simp only [sends?, found, found', same']
        cases left : (t.advanceThrough waits p.state).2 with
        | done r =>
          rw [Task.bind, ends t r found left]
        | call question next =>
          rw [← onward_proceed named]
          rfl
        | _ => rfl
    · rw [if_neg mine] at found'
      refine ⟨onward_visit_of_suspend named found found' rfl fun q => ?_, ?_⟩
      · rw [if_neg mine]
        exact onward_suspend_other
      · have same : t.advanceThrough waits (p.onward name k last).state =
          t.advanceThrough waits p.state := rfl
        simp only [sends?, found, found', same]
        rw [← onward_proceed named]
        rfl
  · have none (visited : String) (t : Task σ Q A (Option R)) :
        p.threads[place]? ≠ some (visited, .ready t) := fun found => ready ⟨visited, t, found⟩
    have none' (visited : String) (t' : Task σ Q A (Option R)) :
        (p.onward name k last).threads[place]? ≠ some (visited, .ready t') := fun found' => by
      obtain ⟨t, found⟩ := exists_ready_of_onward found'
      exact none visited t found
    rw [(visit_of_not_ready none).1, (visit_of_not_ready none').1, sends?_of_not_ready none,
      sends?_of_not_ready none']
    exact ⟨rfl, rfl⟩

end Pool

namespace History

variable {sys : System σ E Q A R}

/-- The history with the task begun there, and all else as it happens. -/
def beginning (h : History sys) (begun : Nat) (task : Task σ Q A (Option R)) : History sys :=
  { h with happens := Function.update h.happens begun (.begin task) }

variable {h : History sys} {begun n m : Nat} {task : Task σ Q A (Option R)}
  {k : Option R → Task σ Q A (Option R)} {last : Option R → Option R}

theorem happens_beginning : (h.beginning begun task).happens begun = .begin task :=
  Function.update_self begun _ _

theorem happens_beginning_of_ne (apart : n ≠ begun) :
    (h.beginning begun task).happens n = h.happens n :=
  Function.update_of_ne apart _ _

theorem lt_of_runs {t : Task σ Q A (Option R)} (runs : h.Runs n begun.repr t) : begun < n := by
  obtain ⟨_, _, _, found⟩ := runs
  by_contra early
  exact not_mem_names (Nat.le_of_not_lt early) (List.mem_map.mpr ⟨_, List.mem_of_getElem? found, rfl⟩)

theorem lt_of_sent? {q : Q} (sent : h.sent? n = some (begun.repr, q)) : begun < n := by
  obtain ⟨place, waits, t, _, _, visits, found, _⟩ := exists_call_of_sent? sent
  exact lt_of_runs ⟨place, waits, visits, found⟩

/-- What has ended remains. -/
theorem mem_ended_of_le {name : String} {r : Option R} (named : name ≠ "")
    (ended : (name, .ended r) ∈ (h.pool n).threads) (le : n ≤ m) :
    (name, .ended r) ∈ (h.pool m).threads := by
  induction m, le using Nat.le_induction with
  | base => exact ended
  | succ m _ ih => exact (mem_ended_succ named).mpr (Or.inl ih)

/-- A task comes to one result only. -/
theorem eq_of_mem_ended {r : Option R} {x : R} (begins : h.happens begun = .begin task)
    (ended : (begun.repr, .ended r) ∈ (h.pool n).threads) (result : h.result? begun m = some x) :
    r = some x := by
  have lt : begun < max n m := lt_of_lt_of_le (lt_of_result? result) (Nat.le_max_right n m)
  obtain ⟨i, at_i⟩ := List.mem_iff_getElem?.mp
    (mem_ended_of_le Nat.repr_ne_empty ended (Nat.le_max_left n m))
  obtain ⟨j, at_j⟩ := List.mem_iff_getElem?.mp
    (mem_ended_of_le Nat.repr_ne_empty (Pool.mem_of_result? result) (Nat.le_max_right n m))
  cases (sole begins lt).eq_of_getElem? at_i at_j
  cases at_i.symm.trans at_j
  rfl

theorem result?_of_mem_ended {x : R} (begins : h.happens begun = .begin task)
    (ended : (begun.repr, .ended (some x)) ∈ (h.pool n).threads) : h.result? begun n = some x := by
  have some_ : (h.result? begun n).isSome := by
    refine List.findSome?_isSome_iff.mpr ⟨_, ended, ?_⟩
    simp only [↓reduceIte, Option.isSome_some]
  obtain ⟨y, result⟩ := Option.isSome_iff_exists.mp some_
  rw [result]
  exact (eq_of_mem_ended begins ended result).symm

theorem mem_ended_of_done {name : String} {place waits : Nat} {t : Task σ Q A (Option R)}
    {r : Option R} (named : name ≠ "") (visits : h.happens n = .visit place waits)
    (found : (h.pool n).threads[place]? = some (name, .ready t))
    (done : (t.advanceThrough waits (h.state n)).2 = .done r) :
    (name, .ended r) ∈ (h.pool (n + 1)).threads :=
  (mem_ended_succ named).mpr (Or.inr ⟨_, place, waits, t, visits, found, Prod.ext rfl done⟩)

/-- The history in which the task goes on, as long as it goes on only where it is over at once. -/
theorem pool_onward (ends : ∀ r, (begun.repr, .ended r) ∈ ((h.beginning begun task).pool n).threads →
      k r = .done (last r)) :
    (h.beginning begun (task.bind k)).pool n =
      ((h.beginning begun task).pool n).onward begun.repr k last := by
  induction n with
  | zero => rfl
  | succ n ih =>
    have same := ih fun r ended => ends r (mem_ended_of_le Nat.repr_ne_empty ended (Nat.le_succ n))
    rw [pool_succ, pool_succ, same]
    by_cases here : n = begun
    · subst here
      rw [happens_beginning, happens_beginning]
      exact (Pool.onward_spawn task).symm
    · rw [happens_beginning_of_ne here, happens_beginning_of_ne here]
      cases happens : h.happens n with
      | begin t => exact (Pool.onward_spawn_of_ne (fun same => here (Nat.repr_injective same)) t).symm
      | visit place waits =>
        have visits : (h.beginning begun task).happens n = .visit place waits :=
          (happens_beginning_of_ne here).trans happens
        exact (Pool.onward_visit Nat.repr_ne_empty fun t r found done =>
          ends r (mem_ended_of_done Nat.repr_ne_empty visits found done)).1
      | release gate => exact (Pool.onward_release gate).symm
      | wake time => exact (Pool.onward_wake time).symm
      | tidy => exact Pool.onward_tidy.symm
      | drift f => rfl
      | outside f => rfl

theorem sent?_onward
    (ends : ∀ r, (begun.repr, .ended r) ∈ ((h.beginning begun task).pool (n + 1)).threads →
      k r = .done (last r)) :
    (h.beginning begun (task.bind k)).sent? n = (h.beginning begun task).sent? n := by
  have same := pool_onward fun r ended =>
    ends r (mem_ended_of_le Nat.repr_ne_empty ended (Nat.le_succ n))
  rw [sent?, sent?, same]
  by_cases here : n = begun
  · subst here
    rw [happens_beginning, happens_beginning]
  · have happens (task : Task σ Q A (Option R)) :
        (h.beginning begun task).happens n = h.happens n := happens_beginning_of_ne here
    rw [happens, happens]
    cases visits : h.happens n with
    | visit place waits =>
      exact (Pool.onward_visit Nat.repr_ne_empty fun t r found done =>
        ends r (mem_ended_of_done Nat.repr_ne_empty ((happens task).trans visits) found done)).2
    | _ => rfl

end History

end DbConsole

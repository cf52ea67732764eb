import DbConsole.Proofs.Task.Left

/-!
Visits. A visit is a turn that ends only where its task may have to wait, so nothing comes in
between two such points. And tasks all of whose changes of the state are of one kind: so is what a visit
to one makes of the state.
-/
set_option autoImplicit false

namespace DbConsole

variable {σ E Q A R : Type}

namespace Task

variable {α β : Type}

/-- The number of steps that take the task through so many of its waits and on to the next one. -/
def reach : Task σ Q A α → Nat → σ → Nat
  | .act update next, waits, s => (next s).reach waits (update s) + 1
  | .wait ready next, waits + 1, s => if ready s then next.reach waits s + 1 else 0
  | _, _, _ => 0

/-- Runs the task through so many of its waits and on to the next one. -/
def advanceThrough (t : Task σ Q A α) (waits : Nat) (s : σ) : σ × Task σ Q A α :=
  t.advanceBy (t.reach waits s) s

variable (waits : Nat) (s : σ)

theorem advanceThrough_done (a : α) :
    (.done a : Task σ Q A α).advanceThrough waits s = (s, .done a) := by
  cases waits <;> rfl

theorem advanceThrough_act (update : σ → σ) (next : σ → Task σ Q A α) :
    (.act update next : Task σ Q A α).advanceThrough waits s =
      (next s).advanceThrough waits (update s) := by
  cases waits <;> rfl

theorem advanceThrough_change_bind (f : σ → σ) (k : Unit → Task σ Q A α) :
    ((change f : Task σ Q A Unit).bind k).advanceThrough waits s =
      (k ()).advanceThrough waits (f s) :=
  advanceThrough_act waits s f fun _ => k ()

theorem advanceThrough_call (question : σ → Q) (next : A → Task σ Q A α) :
    (.call question next : Task σ Q A α).advanceThrough waits s = (s, .call question next) := by
  cases waits <;> rfl

/-- A visit goes no further than the first wait, or on through it. -/
theorem advanceThrough_wait (ready : σ → Bool) (next : Task σ Q A α) :
    (.wait ready next : Task σ Q A α).advanceThrough waits s = (s, .wait ready next) ∨
      ready s = true ∧ ∃ fewer, (.wait ready next : Task σ Q A α).advanceThrough waits s =
        next.advanceThrough fewer s := by
  cases waits with
  | zero => exact Or.inl rfl
  | succ fewer =>
    by_cases go : ready s
    · refine Or.inr ⟨go, fewer, ?_⟩
      rw [advanceThrough, reach, if_pos go, advanceBy, if_pos go, advanceThrough]
    · refine Or.inl ?_
      rw [advanceThrough, reach, if_neg go]
      rfl

/-- A visit does not end before a change. -/
theorem advanceThrough_ne_act {t : Task σ Q A α} {waits : Nat} {s : σ} {update : σ → σ}
    {next : σ → Task σ Q A α} : (t.advanceThrough waits s).2 ≠ .act update next := by
  induction t generalizing waits s with
  | done a =>
    rw [advanceThrough_done]
    nofun
  | act update' next' ih =>
    rw [advanceThrough_act]
    exact ih s
  | wait ready next' ih =>
    rcases advanceThrough_wait waits s ready next' with same | ⟨_, fewer, same⟩ <;> rw [same]
    · nofun
    · exact ih
  | call question next' _ =>
    rw [advanceThrough_call]
    nofun
  | sleep time next' _ =>
    cases waits <;> nofun

end Task

namespace Pool

/-- How many steps a visit to the place takes. -/
def reach (p : Pool σ E Q A R) (place waits : Nat) : Nat :=
  match p.threads[place]? with
  | some (_, .ready t) => t.reach waits p.state
  | _ => 0

/-- Runs the task at a place through so many of its waits and suspends it at the next one. -/
def visit (sys : System σ E Q A R) (p : Pool σ E Q A R) (place waits : Nat) : Pool σ E Q A R :=
  p.turn sys place (p.reach place waits) true

/-- What is asked in the visit, with the answer to it. -/
def asked? (sys : System σ E Q A R) (p : Pool σ E Q A R) (place waits : Nat) : Option (Q × A) :=
  p.heard? sys place (p.reach place waits) true

/-- The question that a visit ends with, behind the name of the task that puts it. -/
def sends? (sys : System σ E Q A R) (p : Pool σ E Q A R) (place waits : Nat) :
    Option (String × Q) :=
  match p.threads[place]? with
  | some (name, .ready t) =>
    match (t.advanceThrough waits p.state).2 with
    | .call question _ => some (name, question (p.proceed sys (t.advanceThrough waits p.state).1).state)
    | _ => none
  | _ => none

variable {sys : System σ E Q A R} {p : Pool σ E Q A R} {place waits : Nat} {name : String}
  {t : Task σ Q A (Option R)} {q : Q}

theorem visit_of_ready (found : p.threads[place]? = some (name, .ready t)) :
    p.visit sys place waits =
      ((p.proceed sys (t.advanceThrough waits p.state).1).suspend sys
        (t.advanceThrough waits p.state).2).1.setThread place
        ((p.proceed sys (t.advanceThrough waits p.state).1).suspend sys
          (t.advanceThrough waits p.state).2).2 := by
  simp only [visit, turn, reach, found, if_true, Task.advanceThrough]

theorem asked?_of_ready (found : p.threads[place]? = some (name, .ready t)) :
    p.asked? sys place waits = (p.proceed sys (t.advanceThrough waits p.state).1).exchange? sys
      (t.advanceThrough waits p.state).2 := by
  simp only [asked?, heard?, reach, found, if_true, Task.advanceThrough]

/-- What is sent is the question of a task that has got to it. -/
theorem exists_call_of_sends? (sends : p.sends? sys place waits = some (name, q)) :
    ∃ t question next, p.threads[place]? = some (name, .ready t) ∧
      (t.advanceThrough waits p.state).2 = .call question next ∧
      q = question (p.proceed sys (t.advanceThrough waits p.state).1).state := by
  unfold sends? at sends
  cases found : p.threads[place]? with
  | none =>
    rw [found] at sends
    cases sends
  | some thread =>
    obtain ⟨other, th⟩ := thread
    rw [found] at sends
    cases th with
    | ready t =>
      dsimp only at sends
      cases left : (t.advanceThrough waits p.state).2 with
      | call question next =>
        rw [left] at sends
        cases sends
        exact ⟨t, question, next, rfl, left, rfl⟩
      | _ =>
        rw [left] at sends
        cases sends
    | _ => cases sends

theorem sends?_of_not_ready (none : ∀ name t, p.threads[place]? ≠ some (name, .ready t)) :
    p.sends? sys place waits = Option.none := by
  refine Option.eq_none_iff_forall_ne_some.mpr fun ⟨name, q⟩ sends => ?_
  obtain ⟨t, _, _, found, _⟩ := exists_call_of_sends? sends
  exact none name t found

/-- A visit to a place where no task can go on changes nothing. -/
theorem visit_of_not_ready (none : ∀ name t, p.threads[place]? ≠ some (name, .ready t)) :
    p.visit sys place waits = p ∧ p.asked? sys place waits = Option.none := by
  unfold visit asked? turn heard?
  cases found : p.threads[place]? with
  | none => exact ⟨rfl, rfl⟩
  | some q =>
    obtain ⟨name, th⟩ := q
    cases th with
    | ready t => exact absurd found (none name t)
    | _ => exact ⟨rfl, rfl⟩

theorem state_visit (found : p.threads[place]? = some (name, .ready t)) :
    (p.visit sys place waits).state = (sys.started (t.advanceThrough waits p.state).1).2 := by
  rw [visit_of_ready found]
  exact state_suspend sys _ _

/-- What a visit leaves: at its place what the visited task has got to, all others as they were. -/
theorem getElem?_visit (found : p.threads[place]? = some (name, .ready t)) (i : Nat) :
    (p.visit sys place waits).threads[i]? =
      if place = i then
        some (name, ((p.proceed sys (t.advanceThrough waits p.state).1).suspend sys
          (t.advanceThrough waits p.state).2).2)
      else (p.proceed sys (t.advanceThrough waits p.state).1).threads[i]? := by
  rw [visit_of_ready found, Pool.setThread, List.getElem?_modify, threads_suspend]
  split
  · rename_i here
    rw [← here, getElem?_proceed found]
    rfl
  · exact id_map' _

theorem SomeLeft.visited {holds : Task σ Q A (Option R) → Prop}
    (found : p.threads[place]? = some (name, .ready t)) (named : name ≠ "")
    (held : holds (t.advanceThrough waits p.state).2)
    (called : ∀ question next a, holds (.call question next) → holds (next a))
    (slept : ∀ time next, holds (.sleep time next) → holds next) :
    (p.visit sys place waits).SomeLeft holds := by
  have here : (p.visit sys place waits).threads[place]? = _ := getElem?_visit found place
  rw [if_pos rfl] at here
  refine ⟨name, _, named, List.mem_of_getElem? here, left_suspend _ (fun _ => held) ?_ ?_⟩
  · exact fun question next a same _ => called question next a (same ▸ held)
  · exact fun time next same => slept time next (same ▸ held)

/-- A visit goes on with one of the tasks, or with another one. -/
theorem SomeLeft.visit {holds : Task σ Q A (Option R) → Prop} (some_ : p.SomeLeft holds)
    (here : ∀ name t, p.threads[place]? = some (name, .ready t) → holds t →
      holds (t.advanceThrough waits p.state).2)
    (called : ∀ question next a, holds (.call question next) → holds (next a))
    (slept : ∀ time next, holds (.sleep time next) → holds next) :
    (p.visit sys place waits).SomeLeft holds := by
  by_cases ready : ∃ name t, p.threads[place]? = some (name, .ready t)
  · obtain ⟨visited, t, found⟩ := ready
    obtain ⟨name, th, named, member, left⟩ := some_
    obtain ⟨i, at_i⟩ := List.mem_iff_getElem?.mp member
    by_cases mine : place = i
    · subst mine
      cases found.symm.trans at_i
      exact .visited found named (here _ t found left) called slept
    · have other : (p.visit sys place waits).threads[i]? = _ := getElem?_visit found i
      rw [if_neg mine, getElem?_proceed at_i] at other
      exact ⟨name, th, named, List.mem_of_getElem? other, left⟩
  · rw [(visit_of_not_ready fun name t found => ready ⟨name, t, found⟩).1]
    exact some_

end Pool

/-! ### Changes of one kind -/

namespace Task

variable {α β : Type}

/-- Each change that the task makes is such a change. -/
def Within (changes : σ → σ → Prop) : Task σ Q A α → Prop
  | .done _ => True
  | .act update next => (∀ s, changes s (update s)) ∧ ∀ s, (next s).Within changes
  | .wait _ next => next.Within changes
  | .call _ next => ∀ reply, (next reply).Within changes
  | .sleep _ next => next.Within changes

namespace Within

variable {changes changes' : σ → σ → Prop} {t : Task σ Q A α}

theorem bind {k : α → Task σ Q A β} (within_ : t.Within changes)
    (rest : ∀ a, (k a).Within changes) : (t.bind k).Within changes := by
  induction t with
  | done a => exact rest a
  | act update next ih => exact ⟨within_.1, fun s => ih s (within_.2 s)⟩
  | wait ready next ih => exact ih within_
  | call question next ih => exact fun reply => ih reply (within_ reply)
  | sleep time next ih => exact ih within_

theorem mono (within_ : t.Within changes) (weaker : ∀ s s', changes s s' → changes' s s') :
    t.Within changes' := by
  induction t with
  | done a => trivial
  | act update next ih => exact ⟨fun s => weaker s _ (within_.1 s), fun s => ih s (within_.2 s)⟩
  | wait ready next ih => exact ih within_
  | call question next ih => exact fun reply => ih reply (within_ reply)
  | sleep time next ih => exact ih within_

/-- Changes that can be made one behind the other are such a change together. -/
theorem advanceThrough (within_ : t.Within changes) (refl : ∀ s, changes s s)
    (trans : ∀ s s' s'', changes s s' → changes s' s'' → changes s s'') (waits : Nat) (s : σ) :
    changes s (t.advanceThrough waits s).1 ∧ (t.advanceThrough waits s).2.Within changes := by
  refine advanceBy_keeps (fun s' t => changes s s' ∧ t.Within changes) ?_ ?_ ⟨refl s, within_⟩ _
  · rintro s' update next ⟨changed, within_⟩
    exact ⟨trans s s' _ changed (within_.1 s'), within_.2 s'⟩
  · exact fun _ _ _ held => held

end Within

end Task

end DbConsole

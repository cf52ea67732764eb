import DbConsole.Task.Pool

/-!
Turns of any length. A turn of a pool may end at every point of a task, not only where the task
has to wait, so turns of one task and turns of others come in every order.
-/
set_option autoImplicit false

namespace DbConsole

variable {σ E Q A R : Type}

namespace Task

variable {α : Type}

/-- Runs the task without waiting for anything, but only so many steps. -/
def advanceBy : Nat → Task σ Q A α → σ → σ × Task σ Q A α
  | steps + 1, .act update next, s => (next s).advanceBy steps (update s)
  | steps + 1, .wait ready next, s =>
    if ready s then next.advanceBy steps s else (s, .wait ready next)
  | _, t, s => (s, t)

theorem exists_advanceBy_eq_advance (t : Task σ Q A α) (s : σ) :
    ∃ steps, t.advanceBy steps s = t.advance s := by
  induction t generalizing s with
  | act update next ih =>
    obtain ⟨steps, same⟩ := ih s (update s)
    exact ⟨steps + 1, same⟩
  | wait ready next ih =>
    by_cases go : ready s
    · obtain ⟨steps, same⟩ := ih s
      exact ⟨steps + 1, by rw [advanceBy, advance, if_pos go, if_pos go, same]⟩
    · exact ⟨1, by rw [advanceBy, advance, if_neg go, if_neg go]⟩
  | done result => exact ⟨0, rfl⟩
  | call question next ih => exact ⟨0, rfl⟩
  | sleep time next ih => exact ⟨0, rfl⟩

/-- What every change of a task keeps, and every wait where the state is ready, so many steps keep. -/
theorem advanceBy_keeps_of_ready (holds : σ → Task σ Q A α → Prop)
    (act : ∀ s update next, holds s (.act update next) → holds (update s) (next s))
    (wait : ∀ s ready next, ready s = true → holds s (.wait ready next) → holds s next)
    {t : Task σ Q A α} {s : σ} (held : holds s t) (steps : Nat) :
    holds (t.advanceBy steps s).1 (t.advanceBy steps s).2 := by
  induction steps generalizing t s with
  | zero => cases t <;> exact held
  | succ steps ih =>
    cases t with
    | act update next => exact ih (act s update next held)
    | wait ready next =>
      rw [advanceBy]
      split
      · exact ih (wait s ready next ‹_› held)
      · exact held
    | done result => exact held
    | call question next => exact held
    | sleep time next => exact held

/-- What every change and every wait of a task keeps, so many steps keep. -/
theorem advanceBy_keeps (holds : σ → Task σ Q A α → Prop)
    (act : ∀ s update next, holds s (.act update next) → holds (update s) (next s))
    (wait : ∀ s ready next, holds s (.wait ready next) → holds s next)
    {t : Task σ Q A α} {s : σ} (held : holds s t) (steps : Nat) :
    holds (t.advanceBy steps s).1 (t.advanceBy steps s).2 :=
  advanceBy_keeps_of_ready holds act (fun s ready next _ => wait s ready next) held steps

end Task

/-- What an answer says, whenever it comes. -/
def Answer.value? {A : Type} : Answer A → Option A
  | .now a => some a
  | .behind _ a => some a
  | .after _ a => some a
  | .never => none

namespace Pool

/-- The question that a task asks when it is suspended, with the answer to it. -/
def exchange? (sys : System σ E Q A R) (p : Pool σ E Q A R) :
    Task σ Q A (Option R) → Option (Q × A)
  | .call question _ =>
    (sys.submit p.world (question p.state)).2.value?.map fun a => (question p.state, a)
  | _ => none

theorem threads_suspend (sys : System σ E Q A R) (p : Pool σ E Q A R) (t : Task σ Q A (Option R)) :
    (p.suspend sys t).1.threads = p.threads := by
  cases t <;> rfl

theorem state_suspend (sys : System σ E Q A R) (p : Pool σ E Q A R) (t : Task σ Q A (Option R)) :
    (p.suspend sys t).1.state = p.state := by
  cases t <;> rfl

/-- Runs the task at a place so many steps; if the turn goes through, the task is suspended where
it has got to. -/
def turn (sys : System σ E Q A R) (p : Pool σ E Q A R) (place steps : Nat) (through : Bool) :
    Pool σ E Q A R :=
  match p.threads[place]? with
  | some (_, .ready t) =>
    let run := t.advanceBy steps p.state
    let q := p.proceed sys run.1
    if through then (q.suspend sys run.2).1.setThread place (q.suspend sys run.2).2
    else q.setThread place (.ready run.2)
  | _ => p

/-- What is asked in the turn, with the answer to it. -/
def heard? (sys : System σ E Q A R) (p : Pool σ E Q A R) (place steps : Nat) (through : Bool) :
    Option (Q × A) :=
  match p.threads[place]? with
  | some (_, .ready t) =>
    let run := t.advanceBy steps p.state
    if through then (p.proceed sys run.1).exchange? sys run.2 else none
  | _ => none

/-- What a pool comes to by turns, as time goes on and as what has ended is forgotten. -/
inductive Reaches (sys : System σ E Q A R) (p : Pool σ E Q A R) : Pool σ E Q A R → Prop
  | here : Reaches sys p p
  | turn (q : Pool σ E Q A R) (place steps : Nat) (through : Bool) :
    Reaches sys p q → Reaches sys p (q.turn sys place steps through)
  | wake (q : Pool σ E Q A R) (time : Nat) : Reaches sys p q → Reaches sys p (q.wake time)
  | tidy (q : Pool σ E Q A R) : Reaches sys p q → Reaches sys p q.tidy
  | idle (q : Pool σ E Q A R) :
    Reaches sys p q → Reaches sys p { q with state := sys.idle q.state }

variable {sys : System σ E Q A R} {p q : Pool σ E Q A R}

/-- A step of the pool is a turn that ends only where the task has to wait. -/
theorem Reaches.stepAt (reached : Reaches sys p q) (place : Nat) :
    Reaches sys p (q.stepAt sys place).1 := by
  have same : (q.stepAt sys place).1 = q ∨
      ∃ steps, (q.stepAt sys place).1 = q.turn sys place steps true := by
    unfold Pool.stepAt Pool.turn
    cases q.threads[place]? with
    | none => exact Or.inl rfl
    | some found =>
      obtain ⟨name, th⟩ := found
      cases th with
      | ready t =>
        by_cases runs : canRun q.state (.ready t : Thread σ Q A R)
        · obtain ⟨steps, same⟩ := t.exists_advanceBy_eq_advance q.state
          exact Or.inr ⟨steps, by simp only [runs, same, runThread, ↓reduceIte]⟩
        · exact Or.inl (by simp only [runs, Bool.false_eq_true, ↓reduceIte])
      | _ => exact Or.inl rfl
  rcases same with same | ⟨steps, same⟩ <;> rw [same]
  · exact reached
  · exact reached.turn q place steps true

theorem Reaches.round (reached : Reaches sys p q) : Reaches sys p (q.round sys).1 := by
  unfold Pool.round
  have fold (places : List Nat) (acc : Pool σ E Q A R × Bool) (reached : Reaches sys p acc.1) :
      Reaches sys p (places.foldl (fun acc i =>
        ((acc.1.stepAt sys i).1, acc.2 || (acc.1.stepAt sys i).2)) acc).1 := by
    induction places generalizing acc with
    | nil => exact reached
    | cons place rest ih => exact ih _ (reached.stepAt place)
  exact fold _ _ reached

/-- However long a pool is run, it is by turns. -/
theorem Reaches.settle (reached : Reaches sys p q) (rounds : Nat) :
    Reaches sys p (q.settle sys rounds) := by
  induction rounds generalizing q with
  | zero => exact reached
  | succ rounds ih =>
    rw [Pool.settle]
    dsimp only
    split
    · exact ih (.tidy _ reached.round)
    · split
      · exact ih (.wake _ _ reached.round)
      · exact .idle _ reached.round

end Pool

end DbConsole

/-!
Work that shares a state with other work. Between two points where it may wait a task runs without
interruption; it may wait for a condition on the state, for the answer to a question that it puts
to the outside, or for time to pass.
-/
set_option autoImplicit false

namespace DbConsole

/-- A task over states `σ` that asks questions `Q`, gets answers `A` and comes to a result `α`. -/
inductive Task (σ Q A : Type) (α : Type) where
  | done (result : α)
  /-- Changes the state and goes on at once, as the state before the change tells. -/
  | act (update : σ → σ) (next : σ → Task σ Q A α)
  /-- Goes on when the state is ready. -/
  | wait (ready : σ → Bool) (next : Task σ Q A α)
  /-- Asks what the state tells and goes on with the answer. -/
  | call (question : σ → Q) (next : A → Task σ Q A α)
  /-- Goes on after the milliseconds. -/
  | sleep (time : Nat) (next : Task σ Q A α)

namespace Task

variable {σ Q A α β : Type}

def bind : Task σ Q A α → (α → Task σ Q A β) → Task σ Q A β
  | .done a, k => k a
  | .act update next, k => .act update fun s => (next s).bind k
  | .wait ready next, k => .wait ready (next.bind k)
  | .call question next, k => .call question fun a => (next a).bind k
  | .sleep time next, k => .sleep time (next.bind k)

instance : Monad (Task σ Q A) where
  pure := .done
  bind := bind

theorem bind_done (t : Task σ Q A α) : t.bind .done = t := by
  induction t with
  | done => rfl
  | act _ _ ih => simp [bind, ih]
  | wait _ _ ih => simp [bind, ih]
  | call _ _ ih => simp [bind, ih]
  | sleep _ _ ih => simp [bind, ih]

theorem bind_bind {γ : Type} (t : Task σ Q A α) (f : α → Task σ Q A β) (g : β → Task σ Q A γ) :
    (t.bind f).bind g = t.bind fun a => (f a).bind g := by
  induction t with
  | done => rfl
  | act _ _ ih => simp [bind, ih]
  | wait _ _ ih => simp [bind, ih]
  | call _ _ ih => simp [bind, ih]
  | sleep _ _ ih => simp [bind, ih]

/-- What the state says. -/
def look (f : σ → α) : Task σ Q A α :=
  .act id fun s => .done (f s)

/-- Changes the state. -/
def change (f : σ → σ) : Task σ Q A Unit :=
  .act f fun _ => .done ()

/-- Changes the state and says something about it in one. -/
def turn (f : σ → σ × α) : Task σ Q A α :=
  .act (fun s => (f s).1) fun s => .done (f s).2

/-- A point where other work may come in between. -/
def yield : Task σ Q A Unit :=
  .wait (fun _ => true) (.done ())

/-- Waits until the state has something to say. The fallback is what it says when it has nothing,
which is never heard. -/
def until? (f : σ → Option α) (fallback : α) : Task σ Q A α :=
  .wait (fun s => (f s).isSome) (look fun s => (f s).getD fallback)

def ask (question : σ → Q) : Task σ Q A A :=
  .call question .done

/-- Runs the task as far as it gets without waiting for anything. -/
def advance : Task σ Q A α → σ → σ × Task σ Q A α
  | .act update next, s => (next s).advance (update s)
  | .wait ready next, s => if ready s then next.advance s else (s, .wait ready next)
  | t, s => (s, t)

end Task

end DbConsole

import DbConsole.Proofs.Task.Turn

/-!
What is left of the tasks of a pool, and how it gets less as the pool goes on.
-/
set_option autoImplicit false

namespace DbConsole

variable {σ E Q A R : Type}

/-- What is left of the task has the property. -/
def Thread.Left (holds : Task σ Q A (Option R) → Prop) : Thread σ Q A R → Prop
  | .ready t => holds t
  | .held _ t => holds t
  | .asleep _ t => holds t
  | .lost => True
  | .ended r => holds (.done r)

theorem Thread.Left.mono {holds holds' : Task σ Q A (Option R) → Prop} {th : Thread σ Q A R}
    (left : th.Left holds) (weaker : ∀ t, holds t → holds' t) : th.Left holds' := by
  cases th with
  | lost => trivial
  | _ => exact weaker _ left

/-- The thread is as it was, or goes on where it has stopped. -/
inductive Thread.Resumed : Thread σ Q A R → Thread σ Q A R → Prop where
  | same (th : Thread σ Q A R) : Resumed th th
  | opened (gate : String) (t : Task σ Q A (Option R)) : Resumed (.held gate t) (.ready t)
  | woken (time : Nat) (t : Task σ Q A (Option R)) : Resumed (.asleep time t) (.ready t)

theorem Thread.Resumed.left {holds : Task σ Q A (Option R) → Prop} {before th : Thread σ Q A R}
    (resumed : before.Resumed th) (left : before.Left holds) : th.Left holds := by
  cases resumed <;> exact left

namespace Pool

theorem exists_resumed_of_release {p : Pool σ E Q A R} {gate name : String} {th : Thread σ Q A R}
    (member : (name, th) ∈ (p.release gate).threads) :
    ∃ before, (name, before) ∈ p.threads ∧ before.Resumed th := by
  obtain ⟨⟨old, before⟩, was, same⟩ := List.mem_map.mp member
  cases before with
  | held g t =>
    dsimp only at same
    split at same <;> cases same
    · exact ⟨_, was, .opened g t⟩
    · exact ⟨_, was, .same _⟩
  | _ => cases same; exact ⟨_, was, .same _⟩

theorem exists_resumed_of_wake {p : Pool σ E Q A R} {time : Nat} {name : String} {th : Thread σ Q A R}
    (member : (name, th) ∈ (p.wake time).threads) :
    ∃ before, (name, before) ∈ p.threads ∧ before.Resumed th := by
  obtain ⟨⟨old, before⟩, was, same⟩ := List.mem_map.mp member
  cases before with
  | asleep wakeAt t =>
    dsimp only at same
    split at same <;> cases same
    · exact ⟨_, was, .woken wakeAt t⟩
    · exact ⟨_, was, .same _⟩
  | _ => cases same; exact ⟨_, was, .same _⟩

/-- What is left of each task has a property that may depend on its name. -/
def AllLeft (p : Pool σ E Q A R) (holds : String → Task σ Q A (Option R) → Prop) : Prop :=
  ∀ name th, (name, th) ∈ p.threads → th.Left (holds name)

variable {sys : System σ E Q A R} {p : Pool σ E Q A R}
  {holds : String → Task σ Q A (Option R) → Prop}

theorem mem_of_result? {name : String} {x : R} (result : p.result? name = some x) :
    (name, .ended (some x)) ∈ p.threads := by
  obtain ⟨⟨other, th⟩, member, ended⟩ := List.exists_of_findSome?_eq_some result
  cases th with
  | ended outcome =>
    dsimp only at ended
    split at ended
    · rename_i mine
      subst mine ended
      exact member
    · cases ended
  | _ => cases ended

/-- A suspended task goes on with an answer that was given, or behind its sleep. -/
theorem left_suspend {kept : Task σ Q A (Option R) → Prop} (t : Task σ Q A (Option R))
    (same : (∀ question next, t ≠ .call question next) → kept t)
    (called : ∀ question next a, t = .call question next →
      p.exchange? sys t = some (question p.state, a) → kept (next a))
    (slept : ∀ time next, t = .sleep time next → kept next) : (p.suspend sys t).2.Left kept := by
  cases t with
  | call question next =>
    have answered (a : A) (said : (sys.submit p.world (question p.state)).2.value? = some a) :
        kept (next a) :=
      called question next a rfl (by rw [exchange?, said, Option.map_some])
    rw [suspend]
    cases reply : (sys.submit p.world (question p.state)).2 with
    | now a => exact answered a (by rw [reply]; rfl)
    | behind gate a =>
      dsimp only [Pool.answered]
      split <;> exact answered a (by rw [reply]; rfl)
    | after time a => exact answered a (by rw [reply]; rfl)
    | never => trivial
  | sleep time next => exact slept time next rfl
  | _ => exact same nofun

namespace AllLeft

theorem mono {holds' : String → Task σ Q A (Option R) → Prop} (all : p.AllLeft holds)
    (weaker : ∀ name t, holds name t → holds' name t) : p.AllLeft holds' :=
  fun name th member => (all name th member).mono (weaker name)

theorem init (s : σ) (world : E) : (Pool.init s world : Pool σ E Q A R).AllLeft holds :=
  fun _ _ member => absurd member List.not_mem_nil

theorem and {holds' : String → Task σ Q A (Option R) → Prop} (all : p.AllLeft holds)
    (all' : p.AllLeft holds') : p.AllLeft fun name t => holds name t ∧ holds' name t := by
  intro name th member
  have left := all name th member
  have left' := all' name th member
  cases th with
  | lost => trivial
  | _ => exact ⟨left, left'⟩

theorem spawn (all : p.AllLeft holds) (name : String) (t : Task σ Q A (Option R))
    (held : holds name t) : (p.spawn name t).AllLeft holds := by
  intro other th member
  rcases List.mem_append.mp member with old | new
  · exact all other th old
  · cases List.mem_singleton.mp new
    exact held

theorem release (all : p.AllLeft holds) (gate : String) : (p.release gate).AllLeft holds := by
  intro name th member
  obtain ⟨before, was, resumed⟩ := exists_resumed_of_release member
  exact resumed.left (all name before was)

theorem wake (all : p.AllLeft holds) (time : Nat) : (p.wake time).AllLeft holds := by
  intro name th member
  obtain ⟨before, was, resumed⟩ := exists_resumed_of_wake member
  exact resumed.left (all name before was)

theorem cancel (all : p.AllLeft holds) (name : String) : (p.cancel name).AllLeft holds :=
  fun other th member => all other th (List.mem_filter.mp member).1

theorem tidy (all : p.AllLeft holds) : p.tidy.AllLeft holds :=
  fun name th member => all name th (List.mem_filter.mp member).1

theorem proceed (all : p.AllLeft holds) (s : σ)
    (started : ∀ t ∈ (sys.started s).1, holds "" t) : (p.proceed sys s).AllLeft holds := by
  intro name th member
  rcases List.mem_append.mp member with old | new
  · exact all name th old
  · obtain ⟨t, among, same⟩ := List.mem_map.mp new
    cases same
    exact started t among

theorem setThread (all : p.AllLeft holds) (place : Nat) (name : String) (th new : Thread σ Q A R)
    (found : p.threads[place]? = some (name, th)) (left : new.Left (holds name)) :
    (p.setThread place new).AllLeft holds := by
  intro other th' member
  obtain ⟨i, at_i⟩ := List.mem_iff_getElem?.mp member
  rw [Pool.setThread, List.getElem?_modify] at at_i
  split at at_i
  · rename_i here
    subst here
    rw [found] at at_i
    cases at_i
    exact left
  · rw [id_map'] at at_i
    exact all other th' (List.mem_of_getElem? at_i)

end AllLeft

/-- The threads that were there remain at their places. -/
theorem getElem?_proceed {i : Nat} {q : String × Thread σ Q A R} (found : p.threads[i]? = some q)
    (s : σ) : (p.proceed sys s).threads[i]? = some q := by
  rw [proceed, List.getElem?_append_left (List.getElem?_eq_some_iff.mp found).1, found]

/-- Where a turn leads: the task at its place has run and may have been suspended, and what the
state has had started is there. -/
theorem turn_cases (sys : System σ E Q A R) (p : Pool σ E Q A R) (place steps : Nat)
    (through : Bool) :
    (p.turn sys place steps through = p ∧ p.heard? sys place steps through = none) ∨
    ∃ name t, p.threads[place]? = some (name, .ready t) ∧
      (p.proceed sys (t.advanceBy steps p.state).1).threads[place]? = some (name, .ready t) ∧
      ((p.turn sys place steps through =
          (p.proceed sys (t.advanceBy steps p.state).1).setThread place
            (.ready (t.advanceBy steps p.state).2) ∧
        p.heard? sys place steps through = none) ∨
      (p.turn sys place steps through =
          ((p.proceed sys (t.advanceBy steps p.state).1).suspend sys
            (t.advanceBy steps p.state).2).1.setThread place
            ((p.proceed sys (t.advanceBy steps p.state).1).suspend sys
              (t.advanceBy steps p.state).2).2 ∧
        p.heard? sys place steps through =
          (p.proceed sys (t.advanceBy steps p.state).1).exchange? sys
            (t.advanceBy steps p.state).2)) := by
  rw [turn, heard?]
  cases found : p.threads[place]? with
  | none => exact Or.inl ⟨rfl, rfl⟩
  | some q =>
    obtain ⟨name, th⟩ := q
    cases th with
    | ready t =>
      refine Or.inr ⟨name, t, rfl, getElem?_proceed found _, ?_⟩
      cases through with
      | true => exact Or.inr ⟨rfl, rfl⟩
      | false => exact Or.inl ⟨rfl, rfl⟩
    | _ => exact Or.inl ⟨rfl, rfl⟩

theorem AllLeft.turn (all : p.AllLeft holds) (place steps : Nat) (through : Bool)
    (here : ∀ name t, p.threads[place]? = some (name, .ready t) →
      holds name (t.advanceBy steps p.state).2)
    (started : ∀ s, ∀ t ∈ (sys.started s).1, holds "" t)
    (called : ∀ name question next a, holds name (.call question next) → holds name (next a))
    (slept : ∀ name time next, holds name (.sleep time next) → holds name next) :
    (p.turn sys place steps through).AllLeft holds := by
  rcases turn_cases sys p place steps through with ⟨same, _⟩ |
    ⟨name, t, found, found', ⟨same, _⟩ | ⟨same, _⟩⟩ <;> rw [same]
  · exact all
  · exact (all.proceed _ (started _)).setThread place name (.ready t) _ found' (here name t found)
  · have ran := all.proceed (t.advanceBy steps p.state).1 (started _)
    refine AllLeft.setThread ?_ place name (.ready t) _ (by rw [threads_suspend, found']) ?_
    · intro other th member
      rw [threads_suspend] at member
      exact ran other th member
    · refine left_suspend _ (fun _ => here name t found) (fun question next a same _ => ?_)
        fun time next same => ?_
      · exact called name question next a (same ▸ here name t found)
      · exact slept name time next (same ▸ here name t found)

/-! ### One of the tasks -/

/-- What is left of one of the tasks that have a name has the property. -/
def SomeLeft (p : Pool σ E Q A R) (holds : Task σ Q A (Option R) → Prop) : Prop :=
  ∃ name th, name ≠ "" ∧ (name, th) ∈ p.threads ∧ th.Left holds

namespace SomeLeft

variable {holds : Task σ Q A (Option R) → Prop}

theorem spawned {name : String} (named : name ≠ "") {t : Task σ Q A (Option R)} (held : holds t) :
    (p.spawn name t).SomeLeft holds :=
  ⟨name, .ready t, named, List.mem_append_right _ (List.mem_singleton_self _), held⟩

theorem spawn (some_ : p.SomeLeft holds) (name : String) (t : Task σ Q A (Option R)) :
    (p.spawn name t).SomeLeft holds := by
  obtain ⟨other, th, named, member, left⟩ := some_
  exact ⟨other, th, named, List.mem_append_left _ member, left⟩

/-- Threads are replaced, each by one that has its name and what is left of its task. -/
theorem map {q : Pool σ E Q A R} {f : String × Thread σ Q A R → String × Thread σ Q A R}
    (some_ : p.SomeLeft holds) (replaced : q.threads = p.threads.map f)
    (keeps : ∀ name th, th.Left holds → ∃ th', f (name, th) = (name, th') ∧ th'.Left holds) :
    q.SomeLeft holds := by
  obtain ⟨name, th, named, member, left⟩ := some_
  obtain ⟨th', same, left'⟩ := keeps name th left
  refine ⟨name, th', named, ?_, left'⟩
  rw [replaced, ← same]
  exact List.mem_map_of_mem member

theorem release (some_ : p.SomeLeft holds) (gate : String) : (p.release gate).SomeLeft holds := by
  refine some_.map rfl fun name th left => ?_
  cases th with
  | held g t =>
    dsimp only
    split <;> exact ⟨_, rfl, left⟩
  | _ => exact ⟨_, rfl, left⟩

theorem wake (some_ : p.SomeLeft holds) (time : Nat) : (p.wake time).SomeLeft holds := by
  refine some_.map rfl fun name th left => ?_
  cases th with
  | asleep t task =>
    dsimp only
    split <;> exact ⟨_, rfl, left⟩
  | _ => exact ⟨_, rfl, left⟩

theorem tidy (some_ : p.SomeLeft holds) : p.tidy.SomeLeft holds := by
  obtain ⟨name, th, named, member, left⟩ := some_
  refine ⟨name, th, named, List.mem_filter.mpr ⟨member, ?_⟩, left⟩
  cases th with
  | ended r => exact bne_iff_ne.mpr named
  | _ => rfl

end SomeLeft

end Pool

end DbConsole

import DbConsole.Proofs.Task.History
import Mathlib.Data.Set.Insert

/-!
Disciplines. A pool keeps to one if its state has an invariant and every task of it is of a kind
that preserves the invariant and stays of its kind. What is known grows: by a ghost that tasks add
to, and by the questions that have been answered. All that a task may rely on is that the invariant
holds when it has its turn and that what is known has not become less.
-/
set_option autoImplicit false

namespace DbConsole

variable {σ E Q A R : Type}

/-- An invariant of states and the kinds of tasks that preserve it, by their names. -/
structure Discipline (sys : System σ E Q A R) (Γ : Type) [Preorder Γ] where
  state : Γ → Set (Q × A) → σ → Prop
  task : Γ → Set (Q × A) → String → Task σ Q A (Option R) → Prop
  state_mono : ∀ g heard heard' s, heard ⊆ heard' → state g heard s → state g heard' s
  task_mono : ∀ g g' heard heard' name t, g ≤ g' → heard ⊆ heard' →
    task g heard name t → task g' heard' name t
  act : ∀ g heard s name update next, state g heard s → task g heard name (.act update next) →
    ∃ g', g ≤ g' ∧ state g' heard (update s) ∧ task g' heard name (next s)
  wait : ∀ g heard name ready next, task g heard name (.wait ready next) → task g heard name next
  sleep : ∀ g heard name time next, task g heard name (.sleep time next) → task g heard name next
  call : ∀ g heard s name question next a, state g heard s →
    task g heard name (.call question next) →
      task g (insert (question s, a) heard) name (next a)
  started : ∀ g heard s, state g heard s → state g heard (sys.started s).2 ∧
    ∀ t ∈ (sys.started s).1, task g heard "" t

namespace Discipline

variable {sys : System σ E Q A R} {Γ : Type} [Preorder Γ] {d : Discipline sys Γ} {g : Γ}
  {heard : Set (Q × A)} {p : Pool σ E Q A R}

/-- The pool keeps to the discipline. -/
structure Kept (d : Discipline sys Γ) (g : Γ) (heard : Set (Q × A)) (p : Pool σ E Q A R) :
    Prop where
  state : d.state g heard p.state
  tasks : p.AllLeft (d.task g heard)

namespace Kept

theorem hear {heard' : Set (Q × A)} (kept : Kept d g heard p) (more : heard ⊆ heard') :
    Kept d g heard' p where
  state := d.state_mono g heard heard' _ more kept.state
  tasks := kept.tasks.mono fun name t => d.task_mono g g heard heard' name t le_rfl more

/-- Something else than a task changes the state. -/
theorem withState {g' : Γ} (kept : Kept d g heard p) (more : g ≤ g') (s : σ)
    (held : d.state g' heard s) : Kept d g' heard { p with state := s } where
  state := held
  tasks := kept.tasks.mono fun name t => d.task_mono g g' heard heard name t more subset_rfl

theorem advanceBy {name : String} {t : Task σ Q A (Option R)} {s : σ} (steps : Nat)
    (held : d.state g heard s) (kind : d.task g heard name t) :
    ∃ g', g ≤ g' ∧ d.state g' heard (t.advanceBy steps s).1 ∧
      d.task g' heard name (t.advanceBy steps s).2 := by
  refine Task.advanceBy_keeps
    (fun s t => ∃ g', g ≤ g' ∧ d.state g' heard s ∧ d.task g' heard name t)
    ?_ ?_ ⟨g, le_rfl, held, kind⟩ steps
  · rintro s update next ⟨g', more, held, kind⟩
    obtain ⟨g'', more', held', kind'⟩ := d.act g' heard s name update next held kind
    exact ⟨g'', more.trans more', held', kind'⟩
  · rintro s ready next ⟨g', more, held, kind⟩
    exact ⟨g', more, held, d.wait g' heard name ready next kind⟩

theorem proceed {g' : Γ} (kept : Kept d g heard p) (more : g ≤ g') (s : σ)
    (held : d.state g' heard s) : Kept d g' heard (p.proceed sys s) where
  state := (d.started g' heard s held).1
  tasks := (kept.withState more s held).tasks.proceed s (d.started g' heard s held).2

/-- What a task hears when it is suspended is known afterwards. -/
theorem suspend (kept : Kept d g heard p) (name : String) (t : Task σ Q A (Option R))
    (kind : d.task g heard name t) :
    Kept d g (heard ∪ {x | p.exchange? sys t = some x}) (p.suspend sys t).1 ∧
      (p.suspend sys t).2.Left (d.task g (heard ∪ {x | p.exchange? sys t = some x}) name) := by
  have later := Set.subset_union_left (s := heard) (t := {x | p.exchange? sys t = some x})
  refine ⟨⟨?_, ?_⟩, Pool.left_suspend t ?_ ?_ ?_⟩
  · have held := (kept.hear later).state
    cases t <;> exact held
  · have left := (kept.hear later).tasks
    cases t <;> exact left
  · exact fun _ => d.task_mono g g heard _ name t le_rfl later kind
  · rintro question next a rfl asked
    refine d.task_mono g g _ _ name _ le_rfl ?_
      (d.call g heard p.state name question next a kept.state kind)
    exact Set.insert_subset (Or.inr asked) later
  · rintro time next rfl
    exact d.task_mono g g heard _ name next le_rfl later (d.sleep g heard name time next kind)

theorem turn (kept : Kept d g heard p) (place steps : Nat) (through : Bool) :
    ∃ g', g ≤ g' ∧ Kept d g' (heard ∪ {x | p.heard? sys place steps through = some x})
      (p.turn sys place steps through) := by
  rcases Pool.turn_cases sys p place steps through with ⟨same, nothing⟩ |
    ⟨name, t, found, found', ⟨same, nothing⟩ | ⟨same, asked⟩⟩
  · rw [same]
    exact ⟨g, le_rfl, kept.hear Set.subset_union_left⟩
  all_goals
    have kind := kept.tasks name _ (List.mem_of_getElem? found)
    obtain ⟨g', more, held, kind'⟩ := advanceBy steps kept.state kind
    have ran := kept.proceed more _ held
    refine ⟨g', more, ?_⟩
    rw [same]
  · refine Kept.hear ⟨ran.state, ?_⟩ Set.subset_union_left
    exact ran.tasks.setThread place name (.ready t) _ found' kind'
  · obtain ⟨kept', left⟩ := ran.suspend name _ kind'
    rw [asked]
    refine ⟨kept'.state, kept'.tasks.setThread place name (.ready t) _ ?_ left⟩
    rw [Pool.threads_suspend, found']

end Kept

/-- What has been asked since a point, with the answers to it, where at each point one question is
asked at most. -/
def askedSince (asked? : Nat → Option (Q × A)) (since n : Nat) : Set (Q × A) :=
  {x | ∃ sent, since ≤ sent ∧ sent < n ∧ asked? sent = some x}

theorem askedSince_union {asked? : Nat → Option (Q × A)} {since n : Nat} (le : since ≤ n) :
    askedSince asked? since n ∪ {x | asked? n = some x} ⊆ askedSince asked? since (n + 1) := by
  rintro x (⟨sent, behind, before, same⟩ | same)
  · exact ⟨sent, behind, Nat.lt_succ_of_lt before, same⟩
  · exact ⟨n, le, Nat.lt_succ_self n, same⟩

/-- What each step keeps is kept from a point on, and what is asked adds to what is known. -/
theorem Kept.further {pools : Nat → Pool σ E Q A R} {asked? : Nat → Option (Q × A)}
    {first since n : Nat} (early : first ≤ since) (le : since ≤ n)
    (kept : Kept d g (askedSince asked? first since) (pools since))
    (step : ∀ k g heard, since ≤ k → Kept d g heard (pools k) →
      ∃ g', g ≤ g' ∧ Kept d g' (heard ∪ {x | asked? k = some x}) (pools (k + 1))) :
    ∃ g', Kept d g' (askedSince asked? first n) (pools n) := by
  induction n, le using Nat.le_induction with
  | base => exact ⟨g, kept⟩
  | succ n le ih =>
    obtain ⟨g', kept'⟩ := ih
    obtain ⟨g'', _, kept''⟩ := step n g' _ le kept'
    exact ⟨g'', kept''.hear (askedSince_union (early.trans le))⟩

/-- What each step keeps is kept from a point on; only what has been asked since then is known. -/
theorem Kept.onwards {pools : Nat → Pool σ E Q A R} {asked? : Nat → Option (Q × A)} {since n : Nat}
    (le : since ≤ n) (kept : Kept d g ∅ (pools since))
    (step : ∀ k g heard, since ≤ k → Kept d g heard (pools k) →
      ∃ g', g ≤ g' ∧ Kept d g' (heard ∪ {x | asked? k = some x}) (pools (k + 1))) :
    ∃ g', Kept d g' (askedSince asked? since n) (pools n) :=
  Kept.further le_rfl le (kept.hear (Set.empty_subset _)) step

end Discipline

/-! ### Disciplines of a history -/

namespace History

open Discipline

variable {sys : System σ E Q A R} {Γ : Type} [Preorder Γ] {d : Discipline sys Γ} {g : Γ}
  {heard : Set (Q × A)} {h : History sys} {n : Nat}

/-- Whatever happens, a discipline is kept to that what is begun and what changes the state by itself
keep to. -/
theorem kept_succ (kept : Kept d g heard (h.pool n))
    (begun : ∀ t, h.happens n = .begin t → d.task g heard n.repr t)
    (drifts : ∀ f, h.happens n = .drift f → ∃ g', g ≤ g' ∧ d.state g' heard (f (h.state n))) :
    ∃ g', g ≤ g' ∧ Kept d g' (heard ∪ {x | h.exchange? n = some x}) (h.pool (n + 1)) := by
  rw [pool_succ, exchange?]
  cases happens : h.happens n with
  | begin t =>
    exact ⟨g, le_rfl,
      .hear ⟨kept.state, kept.tasks.spawn _ _ (begun t happens)⟩ Set.subset_union_left⟩
  | visit place waits => exact kept.turn place ((h.pool n).reach place waits) true
  | release gate =>
    exact ⟨g, le_rfl, .hear ⟨kept.state, kept.tasks.release gate⟩ Set.subset_union_left⟩
  | wake time => exact ⟨g, le_rfl, .hear ⟨kept.state, kept.tasks.wake time⟩ Set.subset_union_left⟩
  | tidy => exact ⟨g, le_rfl, .hear ⟨kept.state, kept.tasks.tidy⟩ Set.subset_union_left⟩
  | drift f =>
    obtain ⟨g', more, held⟩ := drifts f happens
    exact ⟨g', more, .hear (kept.withState more _ held) Set.subset_union_left⟩
  | outside f => exact ⟨g, le_rfl, .hear ⟨kept.state, kept.tasks⟩ Set.subset_union_left⟩

/-- A visit keeps to a discipline if what it makes of its task is what a visit would make of one that
keeps to it, in a state that does. -/
theorem kept_succ_of_visit {place waits waits' : Nat} {name : String}
    {t t' : Task σ Q A (Option R)} {s : σ} (happens : h.happens n = .visit place waits)
    (found : (h.pool n).threads[place]? = some (name, .ready t))
    (held : d.state g heard s) (kind : d.task g heard name t')
    (same : t.advanceThrough waits (h.state n) = t'.advanceThrough waits' s)
    (others : ∀ i, i ≠ place → ∀ other th, (h.pool n).threads[i]? = some (other, th) →
      th.Left (d.task g heard other)) :
    ∃ g', Kept d g' (heard ∪ {x | h.exchange? n = some x}) (h.pool (n + 1)) := by
  obtain ⟨g', more, held', kind'⟩ := Kept.advanceBy (t'.reach waits' s) held kind
  change d.state g' heard (t'.advanceThrough waits' s).1 at held'
  change d.task g' heard name (t'.advanceThrough waits' s).2 at kind'
  rw [← same] at held' kind'
  have later : heard ⊆ heard ∪ {x | h.exchange? n = some x} := Set.subset_union_left
  have after := state_succ_of_visit happens found
  have state := (d.started g' heard _ held').1
  rw [← after] at state
  refine ⟨g', d.state_mono _ _ _ _ later state, ?_⟩
  have resumes : (t.advanceThrough waits (h.state n)).2.Resumes
      (fun question a => h.exchange? n = some (question (h.state (n + 1)), a))
      (d.task g' (heard ∪ {x | h.exchange? n = some x}) name) := by
    cases rest : (t.advanceThrough waits (h.state n)).2 <;> rw [rest] at kind'
    case call question next =>
      intro a asked
      refine d.task_mono _ _ _ _ _ _ le_rfl ?_ (d.call g' heard _ name question next a state kind')
      exact Set.insert_subset (Or.inr asked) later
    case sleep time next =>
      exact d.task_mono _ _ _ _ _ _ le_rfl later (d.sleep g' heard name time next kind')
    all_goals exact d.task_mono _ _ _ _ _ _ le_rfl later kind'
  rw [History.state, pool_succ, happens] at resumes
  rw [pool_succ, happens, Pool.Event.apply]
  have anything : (h.pool n).AllLeft fun _ _ => True := fun _ th _ => by cases th <;> trivial
  refine anything.visit_resumes found
    (fun i apart other th at_i _ => (others i apart other th at_i).mono fun t =>
      d.task_mono _ _ _ _ _ t more later) ?_ fun t among => ?_
  · rw [exchange?, happens] at resumes ⊢
    exact resumes
  · exact d.task_mono _ _ _ _ _ _ le_rfl later ((d.started g' heard _ held').2 t among)

end History

/-! ### What a task comes to among others -/

namespace Task

variable {α β Γ : Type} [Preorder Γ] {state : Γ → Set (Q × A) → σ → Prop}

/-- The task preserves the invariant, and its result has the property. -/
def Meets (state : Γ → Set (Q × A) → σ → Prop) (post : Γ → Set (Q × A) → α → Prop) :
    Task σ Q A α → Γ → Set (Q × A) → Prop
  | .done a, g, heard => post g heard a
  | .act update next, g, heard => ∀ g' heard' s, g ≤ g' → heard ⊆ heard' → state g' heard' s →
      ∃ g'', g' ≤ g'' ∧ state g'' heard' (update s) ∧ (next s).Meets state post g'' heard'
  | .wait _ next, g, heard => next.Meets state post g heard
  | .call question next, g, heard => ∀ g' heard' s a, g ≤ g' → heard ⊆ heard' →
      state g' heard' s → (next a).Meets state post g' (insert (question s, a) heard')
  | .sleep _ next, g, heard => next.Meets state post g heard

/-- What holds of a result goes on to hold. -/
def Lasting (post : Γ → Set (Q × A) → α → Prop) : Prop :=
  ∀ g g' heard heard' a, g ≤ g' → heard ⊆ heard' → post g heard a → post g' heard' a

theorem Meets.mono {post : Γ → Set (Q × A) → α → Prop} (lasting : Lasting post)
    {t : Task σ Q A α} {g g' : Γ} {heard heard' : Set (Q × A)} (meets : t.Meets state post g heard)
    (more : g ≤ g') (later : heard ⊆ heard') : t.Meets state post g' heard' := by
  induction t with
  | done a => exact lasting g g' heard heard' a more later meets
  | act update next _ =>
    exact fun g'' heard'' s more' later' =>
      meets g'' heard'' s (more.trans more') (later.trans later')
  | wait ready next ih => exact ih meets
  | call question next _ =>
    exact fun g'' heard'' s a more' later' =>
      meets g'' heard'' s a (more.trans more') (later.trans later')
  | sleep time next ih => exact ih meets

theorem Meets.imp {post post' : Γ → Set (Q × A) → α → Prop} {t : Task σ Q A α} {g : Γ}
    {heard : Set (Q × A)} (meets : t.Meets state post g heard)
    (weaker : ∀ g heard a, post g heard a → post' g heard a) : t.Meets state post' g heard := by
  induction t generalizing g heard with
  | done a => exact weaker g heard a meets
  | act update next ih =>
    intro g' heard' s more later held
    obtain ⟨g'', more', held', next'⟩ := meets g' heard' s more later held
    exact ⟨g'', more', held', ih s next'⟩
  | wait ready next ih => exact ih meets
  | call question next ih =>
    exact fun g' heard' s a more later held => ih a (meets g' heard' s a more later held)
  | sleep time next ih => exact ih meets

theorem Meets.bind {post : Γ → Set (Q × A) → α → Prop} {post' : Γ → Set (Q × A) → β → Prop}
    {t : Task σ Q A α} {k : α → Task σ Q A β} {g : Γ} {heard : Set (Q × A)}
    (meets : t.Meets state post g heard)
    (rest : ∀ g' heard' a, g ≤ g' → heard ⊆ heard' → post g' heard' a →
      (k a).Meets state post' g' heard') : (t.bind k).Meets state post' g heard := by
  induction t generalizing g heard with
  | done a => exact rest g heard a le_rfl subset_rfl meets
  | act update next ih =>
    intro g' heard' s more later held
    obtain ⟨g'', more', held', next'⟩ := meets g' heard' s more later held
    refine ⟨g'', more', held', ih s next' fun g₃ heard₃ a more₃ later₃ => ?_⟩
    exact rest g₃ heard₃ a ((more.trans more').trans more₃) (later.trans later₃)
  | wait ready next ih => exact ih meets rest
  | call question next ih =>
    intro g' heard' s a more later held
    refine ih a (meets g' heard' s a more later held) fun g₃ heard₃ b more₃ later₃ => ?_
    exact rest g₃ heard₃ b (more.trans more₃)
      ((later.trans (Set.subset_insert _ _)).trans later₃)
  | sleep time next ih => exact ih meets rest

/-- What the state has to say when its time has come. -/
theorem Meets.until? {post : Γ → Set (Q × A) → α → Prop} {f : σ → Option α} {fallback : α} {g : Γ}
    {heard : Set (Q × A)}
    (tells : ∀ g' heard' s, g ≤ g' → heard ⊆ heard' → state g' heard' s →
      post g' heard' ((f s).getD fallback)) :
    (Task.until? f fallback : Task σ Q A α).Meets state post g heard :=
  fun g' heard' s more later held => ⟨g', le_rfl, held, tells g' heard' s more later held⟩

end Task

end DbConsole

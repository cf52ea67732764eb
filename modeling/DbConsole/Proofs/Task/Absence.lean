import DbConsole.Proofs.Task.History

/-!
Pools without some of their tasks. A task that only waits for the state and looks at it is not missed by
the others.
-/
set_option autoImplicit false

namespace DbConsole

variable {σ E Q A R : Type}

/-- The task changes nothing and asks nothing. -/
def Task.Watches {α : Type} : Task σ Q A α → Prop
  | .done _ => True
  | .act update next => (∀ s, update s = s) ∧ ∀ s, (next s).Watches
  | .wait _ next => next.Watches
  | .call _ _ => False
  | .sleep _ next => next.Watches

namespace Task.Watches

variable {α β : Type} {t : Task σ Q A α}

theorem bind {k : α → Task σ Q A β} (watches : t.Watches) (rest : ∀ a, (k a).Watches) :
    (t.bind k).Watches := by
  induction t with
  | done a => exact rest a
  | act update next ih => exact ⟨watches.1, fun s => ih s (watches.2 s)⟩
  | wait ready next ih => exact ih watches
  | call question next _ => exact watches.elim
  | sleep time next ih => exact ih watches

theorem advanceThrough (watches : t.Watches) (waits : Nat) (s : σ) :
    (t.advanceThrough waits s).1 = s ∧ (t.advanceThrough waits s).2.Watches := by
  refine advanceBy_keeps (fun s' t => s' = s ∧ t.Watches) ?_ ?_ ⟨rfl, watches⟩ _
  · rintro s' update next ⟨same, watches⟩
    exact ⟨(watches.1 s').trans same, watches.2 s'⟩
  · exact fun _ _ _ held => held

end Task.Watches

/-! ### Places in a list without some of its members -/

section Places

variable {β : Type} {kept : β → Bool} {l : List β} {i : Nat} {b : β}

/-- The place of a member among those that are kept. -/
def placeAmong (kept : β → Bool) (l : List β) (i : Nat) : Nat :=
  (l.take i).countP kept

theorem getElem?_placeAmong (found : l[i]? = some b) (keeps : kept b = true) :
    (l.filter kept)[placeAmong kept l i]? = some b := by
  induction l generalizing i with
  | nil => cases found
  | cons a l ih =>
    cases i with
    | zero =>
      cases found
      rw [List.filter_cons_of_pos keeps]
      rfl
    | succ i =>
      have here := ih (i := i) found
      cases first : kept a with
      | true =>
        rw [List.filter_cons_of_pos first, placeAmong, List.take_succ_cons, List.countP_cons_of_pos first]
        exact here
      | false =>
        rw [List.filter_cons_of_neg (by simp [first]), placeAmong, List.take_succ_cons,
          List.countP_cons_of_neg (by simp [first])]
        exact here

theorem placeAmong_append {l' : List β} (found : l[i]? = some b) :
    placeAmong kept (l ++ l') i = placeAmong kept l i := by
  have before : i ≤ l.length := Nat.le_of_lt (List.getElem?_eq_some_iff.mp found).1
  rw [placeAmong, List.take_append_of_le_length before, placeAmong]

theorem filter_modify_placeAmong {f : β → β} (same : ∀ b, kept (f b) = kept b)
    (found : l[i]? = some b) (keeps : kept b = true) :
    (l.modify i f).filter kept = (l.filter kept).modify (placeAmong kept l i) f := by
  induction l generalizing i with
  | nil => cases found
  | cons a l ih =>
    cases i with
    | zero =>
      cases found
      rw [List.filter_cons_of_pos keeps]
      exact List.filter_cons_of_pos ((same _).trans keeps)
    | succ i =>
      have here := ih (i := i) found
      rw [List.modify_succ_cons, placeAmong, List.take_succ_cons]
      cases first : kept a with
      | true =>
        rw [List.filter_cons_of_pos first, List.filter_cons_of_pos first, List.countP_cons_of_pos first,
          here]
        rfl
      | false =>
        rw [List.filter_cons_of_neg (by simp [first]), List.filter_cons_of_neg (by simp [first]),
          List.countP_cons_of_neg (by simp [first]), here]
        rfl

/-- A change of a member that is not kept makes no difference to the others. -/
theorem filter_modify_of_not_kept {f : β → β} (same : ∀ b, kept (f b) = kept b)
    (found : l[i]? = some b) (gone : kept b = false) :
    (l.modify i f).filter kept = l.filter kept := by
  induction l generalizing i with
  | nil => cases found
  | cons a l ih =>
    cases i with
    | zero =>
      cases found
      rw [List.filter_cons_of_neg (by simp [gone])]
      exact List.filter_cons_of_neg (by simp [same, gone])
    | succ i =>
      have here := ih (i := i) found
      rw [List.modify_succ_cons, List.filter_cons, List.filter_cons, here]

theorem findSome?_filter {γ : Type} {f : β → Option γ} (drops : ∀ b, kept b = false → f b = none) :
    (l.filter kept).findSome? f = l.findSome? f := by
  induction l with
  | nil => rfl
  | cons a l ih =>
    cases first : kept a with
    | true => rw [List.filter_cons_of_pos first, List.findSome?_cons, List.findSome?_cons, ih]
    | false =>
      rw [List.filter_cons_of_neg (by simp [first]), List.findSome?_cons, drops a first, ih]

/-- Where the member stands that is behind so many others of its kind. -/
def placeOf? (wanted : β → Bool) : Nat → List β → Option Nat
  | _, [] => none
  | nth, b :: rest =>
    match wanted b, nth with
    | true, 0 => some 0
    | true, nth + 1 => (placeOf? wanted nth rest).map (· + 1)
    | false, nth => (placeOf? wanted nth rest).map (· + 1)

variable {wanted : β → Bool} {nth : Nat}

theorem placeOf?_cons_of_neg (other : wanted b = false) :
    placeOf? wanted nth (b :: l) = (placeOf? wanted nth l).map (· + 1) := by
  simp only [placeOf?, other]

theorem placeOf?_cons_zero (mine : wanted b = true) : placeOf? wanted 0 (b :: l) = some 0 := by
  simp only [placeOf?, mine]

theorem placeOf?_cons_succ (mine : wanted b = true) :
    placeOf? wanted (nth + 1) (b :: l) = (placeOf? wanted nth l).map (· + 1) := by
  simp only [placeOf?, mine]

theorem exists_of_placeOf? (place : placeOf? wanted nth l = some i) :
    ∃ b, l[i]? = some b ∧ wanted b = true := by
  induction l generalizing nth i with
  | nil => cases place
  | cons a l ih =>
    have behind {nth : Nat} (place : (placeOf? wanted nth l).map (· + 1) = some i) :
        ∃ b, (a :: l)[i]? = some b ∧ wanted b = true := by
      obtain ⟨j, earlier, rfl⟩ := Option.map_eq_some_iff.mp place
      exact ih earlier
    cases mine : wanted a with
    | false => exact behind (placeOf?_cons_of_neg mine ▸ place)
    | true =>
      cases nth with
      | zero =>
        cases (placeOf?_cons_zero mine).symm.trans place
        exact ⟨a, rfl, mine⟩
      | succ nth => exact behind (placeOf?_cons_succ mine ▸ place)

theorem not_wanted_of_placeOf? (none_ : placeOf? wanted 0 l = none) (member : b ∈ l) :
    wanted b = false := by
  induction l with
  | nil => cases member
  | cons a l ih =>
    cases mine : wanted a with
    | true => cases (placeOf?_cons_zero mine).symm.trans none_
    | false =>
      rcases List.mem_cons.mp member with rfl | member
      · exact mine
      · exact ih (Option.map_eq_none_iff.mp (placeOf?_cons_of_neg mine ▸ none_)) member

theorem map_placeAmong_cons (a : β) (place : Option Nat) :
    (place.map (· + 1)).map (placeAmong kept (a :: l)) =
      (place.map (placeAmong kept l)).map fun i => if kept a then i + 1 else i := by
  cases place with
  | none => rfl
  | some i =>
    simp only [Option.map_some, placeAmong, List.take_succ_cons, List.countP_cons]
    split <;> rfl

theorem placeOf?_filter (keeps : ∀ b, wanted b = true → kept b = true) :
    placeOf? wanted nth (l.filter kept) = (placeOf? wanted nth l).map (placeAmong kept l) := by
  induction l generalizing nth with
  | nil => rfl
  | cons a l ih =>
    cases first : kept a with
    | true =>
      have behind (nth : Nat) : ((placeOf? wanted nth l).map (· + 1)).map (placeAmong kept (a :: l)) =
          (placeOf? wanted nth (l.filter kept)).map (· + 1) := by
        rw [map_placeAmong_cons, ih]
        simp only [first, if_true]
      rw [List.filter_cons_of_pos first]
      cases mine : wanted a with
      | false => rw [placeOf?_cons_of_neg mine, placeOf?_cons_of_neg mine, behind]
      | true =>
        cases nth with
        | zero => rw [placeOf?_cons_zero mine, placeOf?_cons_zero mine]; rfl
        | succ nth => rw [placeOf?_cons_succ mine, placeOf?_cons_succ mine, behind]
    | false =>
      have other : wanted a = false := Bool.eq_false_iff.mpr fun mine => by
        cases first.symm.trans (keeps a mine)
      rw [List.filter_cons_of_neg (by simp [first]), placeOf?_cons_of_neg other, map_placeAmong_cons, ih]
      simp only [first, Bool.false_eq_true, if_false, Option.map_id']

theorem placeOf?_filter_of_gone (gone : ∀ b, wanted b = true → kept b = false) :
    placeOf? wanted nth (l.filter kept) = none := by
  cases found : placeOf? wanted nth (l.filter kept) with
  | none => rfl
  | some i =>
    obtain ⟨b, member, wants⟩ := exists_of_placeOf? found
    have keeps := (List.mem_filter.mp (List.mem_of_getElem? member)).2
    cases keeps.symm.trans (gone b wants)

end Places

namespace Pool

def stays (gone : String → Bool) (q : String × Thread σ Q A R) : Bool :=
  !gone q.1

/-- The pool without the tasks whose names are gone. -/
def without (gone : String → Bool) (p : Pool σ E Q A R) : Pool σ E Q A R :=
  { p with threads := p.threads.filter (stays gone) }

/-- The place of a task among those that have its name. -/
def place? (p : Pool σ E Q A R) (name : String) (nth : Nat) : Option Nat :=
  placeOf? (fun q : String × Thread σ Q A R => q.1 == name) nth p.threads

variable {sys : System σ E Q A R} {p : Pool σ E Q A R} {gone : String → Bool} {name : String}
  {place waits nth : Nat} {t : Task σ Q A (Option R)} {th : Thread σ Q A R}

theorem without_spawn (kept : gone name = false) :
    (p.spawn name t).without gone = (p.without gone).spawn name t := by
  simp [without, spawn, stays, kept]

theorem without_release (gate : String) :
    (p.release gate).without gone = (p.without gone).release gate := by
  simp only [without, release, List.filter_map]
  refine congrArg (Pool.mk _ _ · _ _) (congrArg _ (List.filter_congr fun q _ => ?_))
  obtain ⟨other, th⟩ := q
  cases th with
  | held g t =>
    dsimp only [Function.comp]
    split <;> rfl
  | _ => rfl

theorem without_wake (time : Nat) : (p.wake time).without gone = (p.without gone).wake time := by
  simp only [without, wake, List.filter_map]
  refine congrArg (Pool.mk _ _ · _ _) (congrArg _ (List.filter_congr fun q _ => ?_))
  obtain ⟨other, th⟩ := q
  cases th with
  | asleep at_ t =>
    dsimp only [Function.comp]
    split <;> rfl
  | _ => rfl

theorem without_tidy : p.tidy.without gone = (p.without gone).tidy := by
  simp only [without, tidy, List.filter_filter, Bool.and_comm]

theorem without_cancel :
    (p.without gone).cancel name = p.without fun other => gone other || other == name := by
  simp only [without, cancel, List.filter_filter]
  refine congrArg (Pool.mk _ _ · _ _) (List.filter_congr fun q _ => ?_)
  rw [stays, stays, Bool.not_or, Bool.and_comm]
  rfl

theorem without_proceed (kept : gone "" = false) (s : σ) :
    (p.proceed sys s).without gone = (p.without gone).proceed sys s := by
  simp [without, proceed, stays, kept, List.filter_map, Function.comp_def]

theorem without_suspend (t : Task σ Q A (Option R)) :
    (p.without gone).suspend sys t = ((p.suspend sys t).1.without gone, (p.suspend sys t).2) := by
  cases t <;> rfl

theorem without_setThread (kept : gone name = false) (found : p.threads[place]? = some (name, th))
    (new : Thread σ Q A R) : (p.setThread place new).without gone =
      (p.without gone).setThread (placeAmong (stays gone) p.threads place) new :=
  congrArg (Pool.mk _ _ · _ _) (filter_modify_placeAmong (f := fun q => (q.1, new)) (fun _ => rfl) found
    (by rw [stays, kept]; rfl))

/-- A visit to a task that is kept does and asks the same. -/
theorem without_visit_of_ready (unnamed : gone "" = false) (kept : gone name = false)
    (found : p.threads[place]? = some (name, .ready t)) :
    let place' := placeAmong (stays gone) p.threads place
    (p.without gone).visit sys place' waits = (p.visit sys place waits).without gone ∧
      (p.without gone).sends? sys place' waits = p.sends? sys place waits := by
  intro place'
  have keeps : stays gone (name, (.ready t : Thread σ Q A R)) = true := by simp [stays, kept]
  have found' : (p.without gone).threads[place']? = some (name, .ready t) :=
    getElem?_placeAmong found keeps
  have same : t.advanceThrough waits (p.without gone).state = t.advanceThrough waits p.state := rfl
  constructor
  · have there : ((p.proceed sys (t.advanceThrough waits p.state).1).suspend sys
        (t.advanceThrough waits p.state).2).1.threads[place]? = some (name, .ready t) := by
      rw [threads_suspend]
      exact getElem?_proceed found _
    have place_eq : placeAmong (stays gone) ((p.proceed sys (t.advanceThrough waits p.state).1).suspend sys
        (t.advanceThrough waits p.state).2).1.threads place = place' := by
      rw [threads_suspend]
      exact placeAmong_append found
    rw [visit_of_ready found, visit_of_ready found', same, ← without_proceed unnamed, without_suspend,
      without_setThread kept there, place_eq]
  · simp only [sends?, found, found', same]
    rw [← without_proceed unnamed]
    rfl

theorem without_visit (unnamed : gone "" = false) (kept : gone name = false)
    (found : p.threads[place]? = some (name, th)) :
    let place' := placeAmong (stays gone) p.threads place
    (p.without gone).visit sys place' waits = (p.visit sys place waits).without gone ∧
      (p.without gone).sends? sys place' waits = p.sends? sys place waits := by
  intro place'
  by_cases ready : ∃ t, th = .ready t
  · obtain ⟨t, rfl⟩ := ready
    exact without_visit_of_ready unnamed kept found
  · have keeps : stays gone (name, th) = true := by simp [stays, kept]
    have found' : (p.without gone).threads[place']? = some (name, th) :=
      getElem?_placeAmong found keeps
    have none (visited : String) (t : Task σ Q A (Option R)) :
        p.threads[place]? ≠ some (visited, .ready t) := fun here => by
      cases found.symm.trans here
      exact ready ⟨t, rfl⟩
    have none' (visited : String) (t : Task σ Q A (Option R)) :
        (p.without gone).threads[place']? ≠ some (visited, .ready t) := fun here => by
      cases found'.symm.trans here
      exact ready ⟨t, rfl⟩
    rw [(visit_of_not_ready none).1, (visit_of_not_ready none').1, sends?_of_not_ready none,
      sends?_of_not_ready none']
    exact ⟨rfl, rfl⟩

/-- A visit to a task that only watches makes no difference but to that task, where the state has had
nothing started. -/
theorem without_visit_of_watches (absent : gone name = true)
    (quiet : sys.started p.state = ([], p.state))
    (found : p.threads[place]? = some (name, .ready t)) (watches : t.Watches) :
    (p.visit sys place waits).without gone = p.without gone ∧ p.sends? sys place waits = none := by
  obtain ⟨state, rest⟩ := watches.advanceThrough waits p.state
  have still : p.proceed sys (t.advanceThrough waits p.state).1 = p := by
    rw [state, proceed, quiet, List.map_nil, List.append_nil]
  have away (th : Thread σ Q A R) : (p.setThread place th).without gone = p.without gone :=
    congrArg (Pool.mk _ _ · _ _)
      (filter_modify_of_not_kept (fun _ => rfl) found (by simp [stays, absent]))
  constructor
  · rw [visit_of_ready found, still]
    cases left : (t.advanceThrough waits p.state).2 with
    | call question next =>
      rw [left] at rest
      exact rest.elim
    | _ => exact away _
  · simp only [sends?, found]
    cases left : (t.advanceThrough waits p.state).2 with
    | call question next =>
      rw [left] at rest
      exact rest.elim
    | _ => rfl

/-! ### Visits by name -/

/-- Runs the task that is so many behind the first one of its name. -/
def attend (sys : System σ E Q A R) (p : Pool σ E Q A R) (name : String) (nth waits : Nat) :
    Pool σ E Q A R :=
  match p.place? name nth with
  | some place => p.visit sys place waits
  | none => p

/-- The question that such a visit ends with. -/
def attendSends? (sys : System σ E Q A R) (p : Pool σ E Q A R) (name : String) (nth waits : Nat) :
    Option (String × Q) :=
  (p.place? name nth).bind fun place => p.sends? sys place waits

theorem exists_of_place? (found : p.place? name nth = some place) :
    ∃ th, p.threads[place]? = some (name, th) := by
  obtain ⟨⟨other, th⟩, there, mine⟩ := exists_of_placeOf? found
  cases beq_iff_eq.mp mine
  exact ⟨th, there⟩

/-- A visit to a task that is kept does and asks the same. -/
theorem without_attend (unnamed : gone "" = false) (kept : gone name = false) :
    (p.without gone).attend sys name nth waits = (p.attend sys name nth waits).without gone ∧
      (p.without gone).attendSends? sys name nth waits = p.attendSends? sys name nth waits := by
  have same : (p.without gone).place? name nth = (p.place? name nth).map
      (placeAmong (stays gone) p.threads) := by
    refine placeOf?_filter fun q mine => ?_
    rw [stays, beq_iff_eq.mp mine, kept]
    rfl
  rw [attend, attend, attendSends?, attendSends?, same]
  cases place : p.place? name nth with
  | none => exact ⟨rfl, rfl⟩
  | some place =>
    obtain ⟨th, found⟩ := exists_of_place? place
    exact without_visit unnamed kept found

/-- Nobody visits a task that is gone. -/
theorem attend_of_gone (absent : gone name = true) :
    (p.without gone).attend sys name nth waits = p.without gone ∧
      (p.without gone).attendSends? sys name nth waits = none := by
  have none_ : (p.without gone).place? name nth = none := by
    refine placeOf?_filter_of_gone fun q mine => ?_
    rw [stays, beq_iff_eq.mp mine, absent]
    rfl
  rw [attend, attendSends?, none_]
  exact ⟨rfl, rfl⟩

/-- A visit to tasks that only watch makes no difference to the others. -/
theorem attend_of_watches (absent : gone name = true)
    (quiet : sys.started p.state = ([], p.state))
    (watches : ∀ t, (name, .ready t) ∈ p.threads → t.Watches) :
    (p.attend sys name nth waits).without gone = p.without gone ∧
      p.attendSends? sys name nth waits = none := by
  rw [attend, attendSends?]
  cases here : p.place? name nth with
  | none => exact ⟨rfl, rfl⟩
  | some place =>
    obtain ⟨th, found⟩ := exists_of_place? here
    by_cases ready : ∃ t, th = .ready t
    · obtain ⟨t, rfl⟩ := ready
      exact without_visit_of_watches absent quiet found (watches t (List.mem_of_getElem? found))
    · have none (visited : String) (t : Task σ Q A (Option R)) :
          p.threads[place]? ≠ some (visited, .ready t) := fun there => by
        cases found.symm.trans there
        exact ready ⟨t, rfl⟩
      dsimp only [Option.bind]
      rw [(visit_of_not_ready none).1, sends?_of_not_ready none]
      exact ⟨rfl, rfl⟩

theorem result?_without (kept : gone name = false) :
    (p.without gone).result? name = p.result? name := by
  refine findSome?_filter fun ⟨other, th⟩ absent => ?_
  cases th with
  | ended r =>
    refine if_neg fun mine => ?_
    rw [stays, mine, kept] at absent
    cases absent
  | _ => rfl

end Pool

end DbConsole

import DbConsole.Proofs.Console.Clearing
import DbConsole.Proofs.Console.Life

/-!
The rows of the selected table, where the view changes while they are loaded. A page is shown only in
the view that it was loaded for, and only what was answered to a request for it; a failure is shown in
any view.
-/
set_option autoImplicit false

namespace DbConsole.Console

/-! ### What is read where nothing is cached at first -/

namespace Life

variable {E : Type} {r : Life E} {key : Key} {least : Nat}
  {good : Set (Request × Reply) → Payload → Prop} {begun opened n : Nat}

/-- A promise outlasts whatever happens, if nobody begins who has the reader's name. -/
theorem kept_succ {heeds : Heeds key good} {reader : Option String} {named : reader ≠ some ""}
    {post : Set (Flight Unit) → Set (Request × Reply) → Option Outcome → Prop}
    {lasting : Task.Lasting post} {g : Set (Flight Unit)} {heard : Set (Request × Reply)}
    (kept : (promising r.submit heeds least reader named post lasting).Kept g heard
      (r.history.pool n))
    (apart : ∀ t, r.history.happens n = .begin t → reader ≠ some n.repr) :
    ∃ g', g ≤ g' ∧ (promising r.submit heeds least reader named post lasting).Kept g'
      (heard ∪ {x | r.exchange? n = some x}) (r.history.pool (n + 1)) := by
  refine promising_succ kept (fun t begins => ?_)
    fun f drifts => (r.does n).event_of_drift drifts (r.console n)
  refine ⟨?_, fun mine => absurd mine (apart t begins)⟩
  obtain ⟨action, _, rfl⟩ := exists_action_of_begin begins
  exact Civil.composes.whole action

/-- Whatever is cached was answered to a request for its key. -/
theorem exists_kept (unread : ∃ settings, r.start.cache = .empty settings) (key : Key) (n : Nat) :
    ∃ g, (promising r.submit (heeds_answered key) 1 none nofun (fun _ _ _ => True)
      fun _ _ _ _ _ _ _ => id : Discipline (systemBefore r.submit Outcome) _).Kept g
        (Discipline.askedSince r.exchange? 0 n) (r.history.pool n) := by
  refine Discipline.Kept.onwards (g := ∅) (Nat.zero_le n) ⟨?_, .init _ _⟩
    fun k g heard _ kept => kept_succ kept fun _ _ => nofun
  obtain ⟨settings, empty⟩ := unread
  change Cache.Promise r.start.cache ∅ key 1 _
  rw [empty]
  exact .of_none (.empty settings) rfl rfl

/-- What a task comes to that, as it is opened, goes on as one that meets what is asked of it. -/
theorem exists_met {task t' : ConsoleTask (Option Outcome)} {place waits : Nat}
    {post : Set (Flight Unit) → Set (Request × Reply) → Option Outcome → Prop}
    (unread : ∃ settings, r.start.cache = .empty settings) (lasting : Task.Lasting post)
    (meets : ∀ g heard, t'.Meets (Promised key 1 (Answered key)) post g heard)
    (begins : r.history.happens begun = .begin task)
    (opens : r.history.happens opened = .visit place waits)
    (found : (r.history.pool opened).threads[place]? = some (begun.repr, .ready task))
    (same : task.advanceThrough waits (r.console opened) =
      t'.advanceThrough waits (r.console opened))
    (behind : begun < opened) (before : opened < n) {x : Outcome}
    (result : r.returned? begun n = some x) :
    ∃ g, post g (Discipline.askedSince r.exchange? 0 n) (some x) := by
  obtain ⟨g, kept⟩ := exists_kept unread key opened
  have named : some begun.repr ≠ some "" := fun same => Nat.repr_ne_empty (Option.some.inj same)
  let reading := (promising r.submit (heeds_answered key) 1 (some begun.repr) named post lasting :
    Discipline (systemBefore r.submit Outcome) _)
  have sole := History.sole begins behind
  obtain ⟨g', kept'⟩ := History.kept_succ_of_visit (d := reading) opens found kept.state
    ⟨fun _ => meets g _, fun apart => absurd rfl apart⟩ same fun i away other th at_i => by
      refine (kept.tasks other th (List.mem_of_getElem? at_i)).mono fun t kind =>
        ⟨fun mine => ?_, fun _ => kind.2 nofun⟩
      cases mine
      exact absurd (sole.eq_of_getElem? at_i found) away
  have known := kept'.hear (Discipline.askedSince_union (Nat.zero_le opened))
  obtain ⟨g'', ended⟩ := Discipline.Kept.further (Nat.zero_le _) before known
    fun k g heard later kept => kept_succ kept fun t _ mine => by
      have named : begun = k := Nat.repr_injective (Option.some.inj mine)
      omega
  exact ⟨g'', (ended.tasks _ _ (Pool.mem_of_result? result)).1 rfl⟩

end Life

/-! ### What is shown -/

/-- What is made of what has been loaded for a ticket. -/
def judged (ticket : Ticket) : Except Error Page → ConsoleTask (Except Error (Option Page))
  | .error e => .done (.error e)
  | .ok page =>
    (Task.look (·.workspace.isCurrent ticket)).bind fun current =>
      if current then .done (.ok (some page)) else .done (.ok none)

/-- What comes behind the taking of a ticket. -/
def viewing (policy : FetchPolicy) (ticket : Ticket) : ConsoleTask (Except Error (Option Page)) :=
  match ticket.table with
  | none => .done (.ok none)
  | some table => (rows table ticket.query policy).bind (judged ticket)

theorem selectedRows_eq (policy : FetchPolicy) :
    selectedRows policy = (Task.look (·.workspace.ticket)).bind (viewing policy) := by
  change (Task.look fun c : Console => c.workspace.ticket).bind _ = _
  refine congrArg _ (funext fun ticket => ?_)
  rw [viewing]
  cases ticket.table with
  | none => rfl
  | some table =>
    refine congrArg (Task.bind _) (funext fun loaded => ?_)
    cases loaded <;> rfl

/-! ### How loading ends -/

/-- Why rows are not loaded: there is no such paging, or a fetch has failed, or what is cached is of
another kind. -/
def Thwarted (table : String) (query : PageQuery) (c : Console) (e : Error) : Prop :=
  query.validate = .error e ∨ (∃ flight, c.cache.landing? flight = some (.error e)) ∨
    e = .decode (.mistyped (Key.rows table query).display)

theorem ofKind_eq_error {key : Key} {α : Type} {cast : Payload → Option α} {v : Payload} {e : Error}
    (failed : Cache.ofKind key cast v = .error e) : e = .decode (.mistyped key.display) := by
  unfold Cache.ofKind at failed
  split at failed <;> cases failed
  rfl

theorem assures_rows (table : String) (query : PageQuery) (policy : FetchPolicy) (c : Console) :
    (rows table query policy).Assures (fun _ _ => True)
      (fun _ c' loaded => ∀ e, loaded = .error e → Thwarted table query c' e) ∅ c := by
  rw [rows]
  cases valid : query.validate with
  | error e =>
    rintro _ ⟨⟩
    exact Or.inl valid
  | ok u =>
    intro c₁ _ _
    change Task.Assures _ _ (Cache.finishRead (.rows table query) Payload.page? _) _ _
    cases c₁.cache.read c₁.now (.rows table query) policy () |>.2 with
    | served v => exact fun e failed => Or.inr (Or.inr (ofKind_eq_error failed))
    | awaiting flight =>
      intro c₂ _ come e failed
      obtain ⟨loaded, same⟩ := Option.isSome_iff_exists.mp come
      dsimp only at failed
      rw [same, Option.getD_some] at failed
      obtain ⟨brought, landed, rfl⟩ := Option.map_eq_some_iff.mp same
      cases brought with
      | error e' =>
        cases failed
        exact Or.inr (Or.inl ⟨flight, landed⟩)
      | ok v => exact Or.inr (Or.inr (ofKind_eq_error failed))

/-- What the rows of the selected table come to when the view at the beginning and the console at the
end are given. -/
def Judged (w : Workspace) (c : Console) (result : Except Error (Option Page)) : Prop :=
  (w.table = none → result = .ok none) ∧ ∀ table, w.table = some table →
    ∃ loaded : Except Error Page,
      result = loaded.map (fun page => if c.workspace.isCurrent w.ticket then some page else none) ∧
      ∀ e, loaded = .error e → Thwarted table w.query c e

theorem judged_of_none {w : Workspace} (unselected : w.table = none) (c : Console) :
    Judged w c (.ok none) :=
  ⟨fun _ => rfl, fun _ selected => nomatch unselected.symm.trans selected⟩

theorem judged_of_some {w : Workspace} {table : String} (selected : w.table = some table)
    {c : Console} {loaded : Except Error Page}
    (thwarted : ∀ e, loaded = .error e → Thwarted table w.query c e) :
    Judged w c (loaded.map fun page =>
      if c.workspace.isCurrent w.ticket then some page else none) := by
  refine ⟨fun unselected => (nomatch unselected.symm.trans selected), fun table' same => ?_⟩
  cases selected.symm.trans same
  exact ⟨loaded, rfl, thwarted⟩

theorem assures_viewing (policy : FetchPolicy) (w : Workspace) (c : Console) :
    (viewing policy w.ticket).Assures (fun _ _ => True) (fun _ => Judged w) ∅ c := by
  rw [viewing]
  have ticket : w.ticket.table = w.table := rfl
  rw [ticket]
  cases selected : w.table with
  | none => exact judged_of_none selected c
  | some table =>
    refine (assures_rows table w.query policy c).bind fun heard c' loaded thwarted => ?_
    have known := judged_of_some selected thwarted
    cases loaded with
    | error e => exact known
    | ok page =>
      rw [Except.map] at known
      change Task.Assures _ _ (if c'.workspace.isCurrent w.ticket then _ else _) _ _
      split
      · rename_i current
        rw [if_pos current] at known
        exact known
      · rename_i stale
        rw [if_neg stale] at known
        exact known

/-! ### What a page shows -/

/-- A page that is shown was answered to a request for the key. -/
def Listed (key : Key) (_ : Set (Flight Unit)) (heard : Set (Request × Reply))
    (outcome : Option Outcome) : Prop :=
  ∀ page, outcome = some (.rows (.ok (some page))) → Answered key heard (.page page)

theorem Listed.lasting (key : Key) : Task.Lasting (Listed key) := by
  rintro g g' heard heard' outcome _ later listed page same
  exact (heeds_answered key).mono heard heard' _ later (listed page same)

theorem meets_viewing {w : Workspace} {table : String} (selected : w.table = some table)
    (policy : FetchPolicy) (g : Set (Flight Unit)) (heard : Set (Request × Reply)) :
    (telling .rows (viewing policy w.ticket)).Meets
      (Promised (.rows table w.query) 1 (Answered (.rows table w.query)))
      (Listed (.rows table w.query)) g heard := by
  have ticket : w.ticket.table = some table := selected
  rw [viewing, ticket]
  change (telling .rows ((rows table w.query policy).bind (judged w.ticket))).Meets _ _ _ _
  rw [rows]
  cases w.query.validate with
  | error e => exact fun _ same => nomatch same
  | ok u =>
    rw [telling, Task.bind_bind]
    refine (meets_fetch (heeds_answered (.rows table w.query)) (.rows table w.query) policy
      Payload.page? g heard).bind fun g' heard' loaded _ _ shown => ?_
    cases loaded with
    | error e => exact fun _ same => nomatch same
    | ok page =>
      intro g'' heard'' c more later promised
      refine ⟨g'', le_rfl, promised, ?_⟩
      obtain ⟨v, same, answered⟩ := shown rfl page rfl
      have listed : v = .page page := by
        cases v <;> cases same
        rfl
      subst listed
      change Task.Meets _ _ (Task.bind (if c.workspace.isCurrent w.ticket then _ else _) _) _ _
      split
      · rintro _ ⟨⟩
        exact (heeds_answered _).mono heard' heard'' _ later answered
      · exact fun _ same => nomatch same

theorem selectedRows_whole (policy : FetchPolicy) : (Action.selectedRows policy).whole =
    .act id fun c => telling .rows (viewing policy c.workspace.ticket) := by
  rw [Action.whole, selectedRows_eq]
  rfl

namespace Life

variable {E : Type} {r : Life E} {begun n : Nat} {policy : FetchPolicy}
  {result : Except Error (Option Page)}

/-- The rows of the selected table, from the visit in which they are asked for to the one in which the
result is there. Without a table there are none. Else a page that has been loaded is shown just if the
view is still the same, and is then the listing that was answered to a request for the table and the
paging of the view; a failure to load one is told whether or not the view is still the same. -/
theorem selectedRows_of_view (r : Life E) (unread : ∃ settings, r.start.cache = .empty settings)
    (begins : r.does begun = .begin (.selectedRows policy))
    (returned : r.returned? begun n = some (.rows result)) :
    ∃ opened closed c, begun < opened ∧ opened ≤ closed ∧ closed < n ∧
      r.Runs opened begun.repr (Action.selectedRows policy).whole ∧
      r.Ends closed begun.repr (.rows result) c ∧
      ((r.console opened).workspace.table = none → result = .ok none) ∧
      ∀ table, (r.console opened).workspace.table = some table →
        (∃ loaded : Except Error Page,
          result = loaded.map (fun page =>
            if (r.console (closed + 1)).workspace = (r.console opened).workspace then some page
            else none) ∧
          ∀ e, loaded = .error e →
            Thwarted table (r.console opened).workspace.query (r.console (closed + 1)) e) ∧
        ∀ page, result = .ok (some page) → ∃ sent request reply, sent < n ∧
          r.exchange? sent = some (request, reply) ∧
          Gives (.rows table (r.console opened).workspace.query) request reply (.page page) := by
  have relies : r.history.Relies (fun _ _ => True)
      (fun opened _ c outcome => ∃ result, outcome = some (.rows result) ∧
        Judged (r.console opened).workspace c result) begun n (Action.selectedRows policy).whole :=
    { begins := happens_of_begin begins
      refl _ := trivial
      trans _ _ _ _ _ := trivial
      taken _ := trivial
      lasting _ _ _ _ _ _ := id
      relied _ _ _ _ := trivial
      assures opened _ _ := by
        rw [selectedRows_whole]
        refine Task.Assures.bind (assures_viewing policy (r.console opened).workspace _) ?_
        exact fun _ _ result judged => ⟨result, rfl, judged⟩ }
  obtain ⟨opened, closed, c, behind, le, before, runs, ends, ⟨_, same, judged⟩, _⟩ :=
    relies.exists_ends returned
  cases same
  have after : r.console (closed + 1) = (startedFetches c).2 := History.state_succ_of_ends ends
  have view : (r.console (closed + 1)).workspace = c.workspace := by
    rw [after]
    rfl
  have current : c.workspace.isCurrent (r.console opened).workspace.ticket = true ↔
      (r.console (closed + 1)).workspace = (r.console opened).workspace := by
    rw [(r.deeds (Nat.le_succ_of_le le)).onward.eq_iff, view]
    exact beq_iff_eq
  refine ⟨opened, closed, c, behind, le, before, runs, ends, judged.1, fun table selected => ⟨?_, ?_⟩⟩
  · obtain ⟨loaded, rfl, thwarted⟩ := judged.2 table selected
    refine ⟨loaded, ?_, fun e failed => ?_⟩
    · simp only [current]
    · have thwarted := thwarted e failed
      rw [after]
      exact thwarted
  · rintro page rfl
    obtain ⟨place, waits, opens, found⟩ := runs
    have goes : (Action.selectedRows policy).whole.advanceThrough waits (r.console opened) =
        (telling .rows (viewing policy (r.console opened).workspace.ticket)).advanceThrough waits
          (r.console opened) := by
      rw [selectedRows_whole, Task.advanceThrough_act]
      rfl
    obtain ⟨g, listed⟩ := exists_met unread (Listed.lasting _) (meets_viewing selected policy)
      (happens_of_begin begins) opens found goes behind (Nat.lt_of_le_of_lt le before) returned
    obtain ⟨x, ⟨sent, _, early, asked⟩, gives⟩ := listed page rfl
    exact ⟨sent, x.1, x.2, early, asked, gives⟩

/-- The rows of a table are asked for, and something is done before the reply is there. -/
def loading (reply : Reply) (meanwhile : Doing Unit) : Life Unit where
  submit := gatedBackend reply reply
  start := tokenConsole ⟨some "users", [], .table, Workspace.firstPage, 4⟩
  world := ()
  does
    | 0 => .begin (.selectedRows .cached)
    | 1 => .visit 0 1
    | 2 => .visit 1 0
    | 3 => meanwhile
    | 4 => .release "late"
    | 5 => .visit 1 1
    | 6 => .visit 0 1
    | _ => .tidy

def noUsers : Reply :=
  agreeing "\x7b\"rows\":[],\"page\":1,\"limit\":50\x7d"

/-- While the view stays as it is, the page is shown that was loaded for it. -/
theorem loading_noUsers_shown : (∃ settings, (loading noUsers .tidy).start.cache = .empty settings) ∧
    ∃ page, (loading noUsers .tidy).returned? 0 7 = some (.rows (.ok (some page))) ∧
      ∃ sent request reply, sent < 7 ∧
        (loading noUsers .tidy).exchange? sent = some (request, reply) ∧
        Gives (.rows "users" Workspace.firstPage) request reply (.page page) := by
  have unread : ∃ settings, (loading noUsers .tidy).start.cache = .empty settings := ⟨_, rfl⟩
  have come : (((loading noUsers .tidy).returned? 0 7).bind Outcome.rows?).any
      (·.toOption.join.isSome) := by decide +kernel
  have view : ∀ m ∈ List.range 7, ((loading noUsers .tidy).console m).workspace =
      ⟨some "users", [], .table, Workspace.firstPage, 4⟩ := by decide +kernel
  obtain ⟨result, told, isSome⟩ := (Option.any_eq_true _ _).mp come
  obtain ⟨outcome, returned, shows⟩ := Option.bind_eq_some_iff.mp told
  rw [Outcome.eq_rows shows] at returned
  cases result with
  | error e => cases isSome
  | ok shown =>
    obtain ⟨page, rfl⟩ := Option.isSome_iff_exists.mp isSome
    obtain ⟨opened, closed, _, _, le, before, _, _, _, viewed⟩ :=
      selectedRows_of_view _ unread rfl returned
    have same := view opened (List.mem_range.mpr (Nat.lt_of_le_of_lt le before))
    rw [same] at viewed
    exact ⟨unread, page, returned, (viewed "users" rfl).2 page rfl⟩

/-- Another table is selected while the rows of the first one are loaded, and loading fails. -/
def failedMeanwhile : Life Unit :=
  loading (.failed (.refused "http://db/table/users")) (.edit (.selectTable (some "orders")))

/-- The failure to load the rows of one table is told in the view of another one. -/
theorem failedMeanwhile_not_discarded :
    failedMeanwhile.does 0 = .begin (.selectedRows .cached) ∧
      failedMeanwhile.Runs 1 (0 : Nat).repr (Action.selectedRows .cached).whole ∧
      (failedMeanwhile.console 1).workspace.table = some "users" ∧
      (failedMeanwhile.console 7).workspace.table = some "orders" ∧
      ∃ e, failedMeanwhile.returned? 0 7 = some (.rows (.error e)) := by
  have failed : ((failedMeanwhile.returned? 0 7).bind Outcome.rows?).any (·.toOption.isNone) := by
    decide +kernel
  obtain ⟨e, refused⟩ := exists_error_of_any failed
  obtain ⟨outcome, returned, shows⟩ := Option.bind_eq_some_iff.mp refused
  rw [Outcome.eq_rows shows] at returned
  exact ⟨rfl, ⟨0, 1, rfl, rfl⟩, rfl, by decide +kernel, e, returned⟩

end Life

end DbConsole.Console

import DbConsole.Proofs.Cache.SingleRead
import DbConsole.Proofs.Console.Caution
import DbConsole.Proofs.Console.Course

/-!
Changes that are refused on this side. Once a change has sent its request, only the backend or the
way to it can make it fail, so behind a refusal nothing has been sent that changes anything; and what
destroys data and is not confirmed sends nothing at all.
-/
set_option autoImplicit false

namespace DbConsole

/-- The result of a task that has its name alone, where it ends. -/
theorem Pool.result?_setThread {σ E Q A R : Type} {p : Pool σ E Q A R} {name : String}
    {place : Nat} {th : Thread σ Q A R} (sole : p.Sole name)
    (found : p.threads[place]? = some (name, th)) (x : R) :
    (p.setThread place (.ended (some x))).result? name = some x := by
  have here : (p.setThread place (.ended (some x))).threads[place]? =
      some (name, .ended (some x)) := by
    rw [setThread, List.getElem?_modify, found]
    exact congrArg some (if_pos rfl)
  have found? : ((p.setThread place (.ended (some x))).result? name).isSome := by
    refine List.findSome?_isSome_iff.mpr ⟨_, List.mem_of_getElem? here, ?_⟩
    simp only [↓reduceIte, Option.isSome_some]
  obtain ⟨y, result⟩ := Option.isSome_iff_exists.mp found?
  obtain ⟨i, there⟩ := List.mem_iff_getElem?.mp (mem_of_result? result)
  cases (sole.of_names (names_setThread place _)).eq_of_getElem? here there
  cases here.symm.trans there
  exact result

/-- An answer, whatever it is, is no refusal of this side. -/
theorem Reply.isClientSide_of_read {α : Type} [Wire α] {request : String} {reply : Reply}
    {e : Error} (failed : reply.read α request = .error e) : e.isClientSide = false := by
  have ofResult (envelope : Envelope α) (failed : envelope.result = .error e) :
      e.isClientSide = false := by
    unfold Envelope.result at failed
    split at failed
    · cases failed
      rfl
    · split at failed
      · cases failed
      · split at failed <;> cases failed
        rfl
  cases reply with
  | failed cause => cases failed; rfl
  | cutShort => cases failed; rfl
  | answered status text =>
    unfold Reply.read at failed
    dsimp only at failed
    split at failed
    · exact ofResult _ failed
    · split at failed <;> cases failed <;> rfl

namespace Console

variable {α β : Type}

theorem Silent.reconcile : Silent Console.reconcile := by
  refine Silent.bind (fun _ => trivial) fun selected => ?_
  cases selected with
  | none => trivial
  | some table =>
    refine (Silent.fetch _ _ _).bind fun outcome => ?_
    cases outcome with
    | error e => trivial
    | ok ts =>
      dsimp only
      split
      · trivial
      · exact fun _ => trivial

/-- The outcome is no refusal of this side. -/
def Admitted (outcome : Except Error α) : Prop :=
  ∀ e, outcome = .error e → e.isClientSide = false

/-- What an operation has returned is no refusal of this side. -/
def Unrefused (r : Option (Except Error Returned)) : Prop :=
  ∀ e, r = some (.error e) → e.isClientSide = false

theorem admitted_ok (a : α) : Admitted (.ok a) := by
  rintro _ ⟨⟩

theorem unrefused_ok (returned : Returned) : Unrefused (some (.ok returned)) := by
  rintro _ ⟨⟩

/-- Once the task has sent something, its result is certain to be good. -/
def Commits (ok : α → Prop) : ConsoleTask α → Prop
  | .done _ => True
  | .act _ next => ∀ c, Commits ok (next c)
  | .wait _ next => Commits ok next
  | .call _ next => ∀ reply, Ensures ok (next reply)
  | .sleep _ next => Commits ok next

namespace Commits

variable {ok : α → Prop} {ok' : β → Prop}

theorem bind {t : ConsoleTask α} {k : α → ConsoleTask β} (commits : Commits ok t)
    (rest : ∀ a, Commits ok' (k a)) (sure : ∀ a, ok a → Ensures ok' (k a)) :
    Commits ok' (t.bind k) := by
  induction t with
  | done a => exact rest a
  | act update next ih => exact fun c => ih c (commits c)
  | wait ready next ih => exact ih commits
  | call question next _ => exact fun reply => (commits reply).bind sure
  | sleep time next ih => exact ih commits

/-- Who sends nothing commits to nothing. -/
theorem behind {t : ConsoleTask β} {k : β → ConsoleTask α} (silent : Silent t)
    (rest : ∀ b, Commits ok (k b)) : Commits ok (t.bind k) := by
  induction t with
  | done b => exact rest b
  | act update next ih => exact fun c => ih c (silent c)
  | wait ready next ih => exact ih silent
  | call question next _ => exact silent.elim
  | sleep time next ih => exact ih silent

/-- A visit leaves a task that commits, and one that has its result certain if it ends with a
question. -/
theorem advanceThrough {t : ConsoleTask α} (commits : Commits ok t) (waits : Nat) (c : Console) :
    Commits ok (t.advanceThrough waits c).2 := by
  refine Task.advanceBy_keeps (fun _ t => Commits ok t) ?_ ?_ commits _
  · exact fun c _ _ commits => commits c
  · exact fun _ _ _ commits => commits

/-! ### Parts of changes -/

theorem of_sends {t : ConsoleTask (Except Error α)} (sends : Sends t) : Commits Admitted t := by
  cases sends with
  | refused e => trivial
  | send method endpoint body => exact fun _ _ failed => Reply.isClientSide_of_read failed

/-- What follows an outcome, if it asks nothing, hands on a failure and adds none. -/
theorem followed {ok : β → Prop} {t : ConsoleTask (Except Error α)}
    {k : Except Error α → ConsoleTask β} (commits : Commits Admitted t)
    (silent : ∀ a, Silent (k (.ok a))) (sure : ∀ a, Ensures ok (k (.ok a)))
    (fails : ∀ e, ∃ b, k (.error e) = .done b ∧ (e.isClientSide = false → ok b)) :
    Commits ok (t.bind k) := by
  refine commits.bind (fun outcome => ?_) fun outcome admitted => ?_
  · cases outcome with
    | error e =>
      obtain ⟨b, same, _⟩ := fails e
      rw [same]
      trivial
    | ok a => exact Task.bind_done (k (.ok a)) ▸ behind (silent a) fun _ => trivial
  · cases outcome with
    | error e =>
      obtain ⟨b, same, held⟩ := fails e
      rw [same]
      exact held (admitted e rfl)
    | ok a => exact sure a

theorem following {follow : ConsoleTask Unit} {t : ConsoleTask (Except Error α)}
    (commits : Commits Admitted t) (silent : Silent follow) :
    Commits Admitted (t.bind (following follow)) := by
  refine commits.followed (fun a => silent.bind fun _ => trivial)
    (fun a => Ensures.behind follow fun _ => admitted_ok a) fun e => ⟨_, rfl, ?_⟩
  rintro known _ ⟨⟩
  exact known

theorem returning {wrap : α → Returned} {t : ConsoleTask (Except Error α)}
    (commits : Commits Admitted t) : Commits Unrefused (Console.returning wrap t) := by
  refine commits.followed (fun _ => trivial) (fun a => unrefused_ok (wrap a)) fun e => ⟨_, rfl, ?_⟩
  rintro known _ ⟨⟩
  exact known

/-! ### Every change -/

theorem of_makes {plan : Plan} {key? : Option Key} {t : ConsoleTask (Except Error α)}
    (makes : Makes plan key? t) : Commits Admitted t := by
  induction makes with
  | refused key? e => trivial
  | sent key? sends =>
    rw [concluding_eq]
    exact (of_sends sends).following fun _ => trivial
  | read fails rest ih =>
    refine behind (.fetch _ _ _) fun outcome => ?_
    cases outcome with
    | error e =>
      rw [fails]
      trivial
    | ok cs => exact ih cs

theorem dropTable (table : String) (confirmed : Bool) :
    Commits Admitted (Console.dropTable table confirmed) := by
  rw [dropTable_eq]
  exact (of_makes (.storeDropTable table confirmed)).following fun _ => trivial

theorem alterTable (table : String) (change : Alteration) (confirmed : Bool) :
    Commits Admitted (Console.alterTable table change confirmed) := by
  rw [alterTable_eq]
  refine (of_makes (.storeAlterTable table change confirmed)).following ?_
  unfold followAlteration
  cases change.renamedTo? with
  | none => trivial
  | some newName => exact fun _ => trivial

theorem executeSql (request : SqlRequest) (confirmed : Bool) :
    Commits Admitted (Console.executeSql request confirmed) := by
  rw [executeSql_eq]
  intro c
  refine (of_makes (.storeExecuteSql request c.session.engine confirmed)).following ?_
  unfold followSql
  split
  · exact fun _ => trivial
  · exact Silent.reconcile

end Commits

theorem Change.commits (change : Change) : Commits Unrefused change.task := by
  obtain ⟨_, _, _, makes, same⟩ := change.makes
  rw [same]
  exact (Commits.of_makes makes).returning

theorem Action.commits {action : Action} (changes : action.changes = true) :
    Commits Unrefused action.task := by
  cases action with
  | operate operation =>
    cases operation with
    | read read => cases changes
    | change change => exact change.commits
  | dropTable table confirmed => exact (Commits.dropTable _ _).returning
  | alterTable table change confirmed => exact (Commits.alterTable _ _ _).returning
  | executeSql request confirmed => exact (Commits.executeSql _ _).returning
  | _ => cases changes

/-- The action destroys data whatever it is told about it, and is not confirmed. SQL is not meant,
of which some destroys data and some does not. -/
def Action.unconfirmed : Action → Bool
  | .operate (.change (.dropTable _ confirmed)) => !confirmed
  | .operate (.change (.deleteRow _ _ confirmed)) => !confirmed
  | .operate (.change (.alterTable _ change confirmed)) => change.isDestructive && !confirmed
  | .dropTable _ confirmed => !confirmed
  | .alterTable _ change confirmed => change.isDestructive && !confirmed
  | _ => false

theorem storeAlterTable_of_unconfirmed (table : String) {change : Alteration} {confirmed : Bool}
    (unconfirmed : (change.isDestructive && !confirmed) = true) :
    ∃ operation reason, storeAlterTable table change confirmed =
      .done (.error (.unconfirmed operation reason)) := by
  unfold storeAlterTable
  rw [if_pos unconfirmed]
  exact ⟨_, _, rfl⟩

/-- What is not confirmed ends before it has begun. -/
theorem Action.task_of_unconfirmed {action : Action} (unconfirmed : action.unconfirmed = true) :
    ∃ operation reason, action.task = .done (some (.error (.unconfirmed operation reason))) := by
  cases action with
  | operate operation =>
    cases operation with
    | read read => cases unconfirmed
    | change change =>
      cases change with
      | dropTable table confirmed =>
        cases confirmed with
        | true => cases unconfirmed
        | false => exact ⟨_, _, rfl⟩
      | deleteRow table id confirmed =>
        cases confirmed with
        | true => cases unconfirmed
        | false => exact ⟨_, _, rfl⟩
      | alterTable table change confirmed =>
        obtain ⟨operation, reason, same⟩ := storeAlterTable_of_unconfirmed table unconfirmed
        exact ⟨operation, reason, congrArg (returning _) same⟩
      | _ => cases unconfirmed
  | dropTable table confirmed =>
    cases confirmed with
    | true => cases unconfirmed
    | false => exact ⟨_, _, rfl⟩
  | alterTable table change confirmed =>
    obtain ⟨operation, reason, same⟩ := storeAlterTable_of_unconfirmed table unconfirmed
    refine ⟨operation, reason, ?_⟩
    change returning _ ((storeAlterTable table change confirmed).bind _) = _
    rw [same]
    rfl
  | _ => cases unconfirmed

namespace Course

variable {E : Type} {r : Course E} {begun n : Nat} {action : Action}

/-- The action has sent nothing since it was begun. -/
def Unsent (r : Course E) (begun n : Nat) : Prop :=
  ∀ m, begun < m → m < n → ∀ request, r.sent? m ≠ some (begun.repr, request)

/-- What is left of an action that has sent nothing commits to nothing; what is left of one that has
sent something is certain to come to no refusal. -/
def Pledged (r : Course E) (begun n : Nat) (t : ConsoleTask (Option (Except Error Returned))) :
    Prop :=
  (r.Unsent begun n ∧ Commits Unrefused t) ∨ Ensures Unrefused t

theorem Unsent.succ (unsent : r.Unsent begun n)
    (here : ∀ request, r.sent? n ≠ some (begun.repr, request)) : r.Unsent begun (n + 1) := by
  intro m lt lt' request sent
  rcases Nat.lt_succ_iff_lt_or_eq.mp lt' with before | rfl
  · exact unsent m lt before request sent
  · exact here request sent

theorem Pledged.visit {place waits : Nat} {t : ConsoleTask (Option (Except Error Returned))}
    (happens : r.happens n = .visit place waits)
    (found : (r.pool n).threads[place]? = some (begun.repr, .ready t))
    (pledged : r.Pledged begun n t) :
    r.Pledged begun (n + 1) (t.advanceThrough waits (r.console n)).2 := by
  rcases pledged with ⟨unsent, commits⟩ | ensures
  · have left := commits.advanceThrough waits (r.console n)
    by_cases sends : ∃ request, r.sent? n = some (begun.repr, request)
    · -- It has got to a question, and what a task that commits leaves behind one is certain.
      obtain ⟨request, sent⟩ := sends
      obtain ⟨place', waits', t', question, next, c, happens', found', asks, _⟩ :=
        exists_call_of_sent? sent
      cases happens.symm.trans happens'
      cases found.symm.trans found'
      rw [asks] at left ⊢
      exact Or.inr left
    · exact Or.inl ⟨unsent.succ fun request sent => sends ⟨request, sent⟩, left⟩
  · exact Or.inr (ensures.advanceThrough waits (r.console n))

theorem Pledged.others {t : ConsoleTask (Option (Except Error Returned))}
    (others : ∀ t', ¬ r.Runs n begun.repr t') (pledged : r.Pledged begun n t) :
    r.Pledged begun (n + 1) t := by
  refine pledged.imp_left fun ⟨unsent, commits⟩ => ⟨unsent.succ fun request sent => ?_, commits⟩
  obtain ⟨t', runs⟩ := exists_runs_of_sent? sent
  exact others t' runs

theorem pledged (begins : r.happens begun = .begin action) (changes : action.changes = true)
    (lt : begun < n) :
    (r.pool n).AllLeft fun name t => name = begun.repr → r.Pledged begun n t := by
  have unsent : r.Unsent begun (begun + 1) := fun m lt lt' => absurd lt (by omega)
  refine tracked begins (Or.inl ⟨unsent, Action.commits changes⟩) ?_ ?_ ?_ ?_ lt
  · exact fun n place waits t _ happens found => Pledged.visit happens found
  · exact fun n t _ others => Pledged.others others
  · rintro n question next reply (⟨_, commits⟩ | ensures)
    · exact Or.inr (commits reply)
    · exact Or.inr (ensures reply)
  · exact fun n time next held => held

/-- No fetch waits to be started. -/
theorem departures_eq_nil (n : Nat) : (r.console n).cache.departures = [] := by
  induction n with
  | zero => rfl
  | succ n ih =>
    rw [console, pool_succ]
    cases happens : r.happens n with
    | visit place waits =>
      by_cases ready : ∃ name t, (r.pool n).threads[place]? = some (name, .ready t)
      · obtain ⟨name, t, found⟩ := ready
        rw [Happening.apply, Pool.state_visit found]
        rfl
      · rw [Happening.apply,
          (Pool.visit_of_not_ready fun name t found => ready ⟨name, t, found⟩).1]
        exact ih
    | _ => exact ih

/-- The visit to a task that is over: it ends, and nothing else comes of it. -/
theorem pool_succ_of_done {place waits : Nat} {name : String}
    {outcome : Option (Except Error Returned)} (happens : r.happens n = .visit place waits)
    (found : (r.pool n).threads[place]? = some (name, .ready (.done outcome))) :
    r.pool (n + 1) = (r.pool n).setThread place (.ended outcome) := by
  have quiet : (systemBefore r.submit (Except Error Returned)).started (r.pool n).state =
      ([], (r.pool n).state) := by
    change ((r.console n).startedFetches.1.map _, (r.console n).startedFetches.2) = _
    rw [startedFetches]
    dsimp only
    rw [Cache.takeDepartures_of_nil (departures_eq_nil n), Cache.takeDepartures,
      departures_eq_nil n]
    rfl
  have same : (r.pool n).proceed (systemBefore r.submit _) (r.pool n).state = r.pool n := by
    rw [Pool.proceed, quiet]
    change ({ r.pool n with threads := (r.pool n).threads ++ [] } : Operations E) = _
    rw [List.append_nil]
  rw [pool_succ, happens, Happening.apply, Pool.visit_of_ready found, Task.advanceThrough_done,
    same]
  rfl

/-- What is left of an action that has nothing to do is its outcome. -/
theorem left_of_done (begins : r.happens begun = .begin action)
    {outcome : Option (Except Error Returned)} (done : action.task = .done outcome)
    (lt : begun < n) :
    (r.pool n).AllLeft fun name t => name = begun.repr → t = .done outcome := by
  refine @tracked E r n begun action (fun _ t => t = .done outcome) begins done ?_ ?_ ?_ ?_ lt
  · rintro n place waits t _ _ _ rfl
    rw [Task.advanceThrough_done]
  · exact fun _ _ _ _ same => same
  · exact fun _ _ _ _ same => nomatch same
  · exact fun _ _ _ same => nomatch same

/-- A change that is refused on this side has sent nothing that changes anything, neither by itself
nor by the fetch that it reads through. One that destroys data and is not confirmed is refused as
soon as it has its turn, whatever the console holds and the backend says; it sends nothing, has no
fetch started and leaves everything else as it is. -/
theorem refused_sends_no_write (begins : r.happens begun = .begin action)
    (changes : action.changes = true) :
    (∀ n e, r.returned? begun n = some (.error e) → e.isClientSide = true →
      ∀ m, begun < m → m < n → ∀ name request, r.sent? m = some (name, request) →
        name = begun.repr ∨ name = "" → request.method.isWrite = false) ∧
    (action.unconfirmed = true → ∀ m, begun < m →
      (∀ request, r.sent? m ≠ some (begun.repr, request)) ∧
      ∀ t, r.Runs m begun.repr t → ∃ operation reason place,
        r.returned? begun (m + 1) = some (.error (.unconfirmed operation reason)) ∧
        r.pool (m + 1) = (r.pool m).setThread place
          (.ended (some (.error (.unconfirmed operation reason))))) := by
  refine ⟨?_, ?_⟩
  · intro n e failed clientSide m lt lt' name request sent mine
    rcases mine with rfl | rfl
    · rcases pledged begins changes (lt_of_returned? failed) _ _ (Pool.mem_of_result? failed) rfl with
        ⟨unsent, _⟩ | ensures
      · exact absurd sent (unsent m lt lt' request)
      · cases clientSide.symm.trans (ensures e rfl)
    · rw [method_of_unnamed sent]
      rfl
  · intro unconfirmed m lt
    obtain ⟨operation, reason, done⟩ := Action.task_of_unconfirmed unconfirmed
    have left := left_of_done begins done lt begun.repr
    refine ⟨fun request sent => ?_, ?_⟩
    · obtain ⟨_, waits, t, question, next, _, _, found, asks, _⟩ := exists_call_of_sent? sent
      have same : t = .done _ := left _ (List.mem_of_getElem? found) rfl
      rw [same, Task.advanceThrough_done] at asks
      cases asks
    · rintro t ⟨place, waits, happens, found⟩
      have same : t = .done _ := left _ (List.mem_of_getElem? found) rfl
      subst same
      have after := pool_succ_of_done happens found
      refine ⟨operation, reason, place, ?_, after⟩
      rw [returned?, after]
      exact Pool.result?_setThread (sole begins lt) found _

/-! ### A table without a key -/

/-- A backend that tells of a table that has one column and no key, and does what it is told. -/
def keylessBackend (_ : Unit) (request : Request) : Unit × Answer Reply :=
  let text := match request.method with
    | .get => "\x7b\"success\":true,\"data\":\x7b\"columns\":[\x7b\"name\":\"note\"," ++
      "\"data_type\":\"TEXT\",\"nullable\":true,\"is_primary_key\":false\x7d]\x7d\x7d"
    | _ => "\x7b\"success\":true,\"data\":\x7b\"message\":\"OK\",\"rows_affected\":1\x7d\x7d"
  ((), .now (.answered ⟨200⟩ (some text)))

/-- A row of the table is to be deleted, with nothing else going on. -/
def keyless (confirmed : Bool) : Course Unit where
  submit := keylessBackend
  base := ⟨"http", "", none, some (.named "db"), none, .segments [], none, none⟩
  timeout := none
  tokens := .memory none
  settings := ⟨0, 0, 0, 0⟩
  world := ()
  happens
    | 0 => .begin (.operate (.change (.deleteRow "log" ⟨"7"⟩ confirmed)))
    | 1 => .visit 0 1
    | 2 => .visit 1 0
    | 3 => .visit 1 1
    | 4 => .visit 0 1
    | _ => .tidy

/-- The error that an operation has returned. -/
def error? : Option (Except Error Returned) → Option Error
  | some (.error e) => some e
  | _ => none

theorem eq_error_of_error? {outcome : Option (Except Error Returned)} {e : Error}
    (failed : error? outcome = some e) : outcome = some (.error e) := by
  cases outcome with
  | none => cases failed
  | some outcome =>
    cases outcome with
    | error e' => cases failed; rfl
    | ok returned => cases failed

/-- The columns have been asked for, and nothing else has been sent; and where the deletion is not
confirmed, not even that. -/
theorem keyless_sends_get_only :
    (keyless true).happens 0 = .begin (.operate (.change (.deleteRow "log" ⟨"7"⟩ true))) ∧
      (keyless true).returned? 0 5 = some (.error (.noPrimaryKey "log")) ∧
      ((keyless true).sent? 2).map (fun sent => (sent.1, sent.2.method)) = some ("", .get) ∧
      (∀ m, 0 < m → m < 5 → ∀ name request, (keyless true).sent? m = some (name, request) →
        name = Nat.repr 0 ∨ name = "" → request.method.isWrite = false) ∧
      error? ((keyless false).returned? 0 2) =
        some (.unconfirmed "DELETE ROW" "This will permanently delete the row") ∧
      ∀ m, 0 < m → ∀ request, (keyless false).sent? m ≠ some (Nat.repr 0, request) := by
  have refused : (keyless true).returned? 0 5 = some (.error (.noPrimaryKey "log")) :=
    eq_error_of_error? (by decide +kernel)
  refine ⟨rfl, refused, by decide +kernel, ?_, by decide +kernel, ?_⟩
  · exact (refused_sends_no_write (r := keyless true) rfl rfl).1 5 _ refused rfl
  · exact fun m lt => ((refused_sends_no_write (r := keyless false) rfl rfl).2 rfl m lt).1

end Course

end Console

end DbConsole

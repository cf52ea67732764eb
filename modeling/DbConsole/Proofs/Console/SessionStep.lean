import DbConsole.Proofs.Console.SessionTurn

/-!
What one step of a course can do to the session and its token: a check takes in the answer to its
own request, credentials earn a token, or the session is closed; all else leaves both alone, except
that the session may be found to be over where no token is stored.
-/
set_option autoImplicit false

namespace DbConsole.Console.Course

variable {E : Type} (r : Course E)

/-- The action that was begun there has received the reply to a request of its own. -/
def Heard (begun n : Nat) (request : Request) (reply : Reply) : Prop :=
  ∃ sent, sent < n ∧ (∃ t, r.Runs sent begun.repr t) ∧ r.exchange? sent = some (request, reply)

/-- What was begun there is a check of the session, by itself or on start. -/
def Probes (begun : Nat) : Prop :=
  r.happens begun = .begin .start ∨ r.happens begun = .begin .checkStatus

/-- A check of the session that has sent a token takes in the reply. -/
structure Lands (begun n : Nat) (token : String) (reply : Reply) : Prop where
  probes : r.Probes begun
  heard : ∃ c : Console, c.tokens.get? = some token ∧ r.Heard begun n c.statusRequest reply
  runs : r.Runs n begun.repr (landing reply)

/-- Credentials that were presented earn a token, which is stored. -/
structure Grants (begun n : Nat) (forgetting : Bool) (grant : Grant) : Prop where
  granted : ∃ credentials c reply, r.happens begun = .begin (.connect forgetting credentials) ∧
    r.Heard begun n (connectRequest credentials c) reply ∧ reply.grant = .ok grant ∧
      r.Runs n begun.repr (granting forgetting reply)
  stored : (r.console n).tokens.set grant.token = .ok (r.console (n + 1)).tokens

/-- A session is closed: what closes it takes in the reply, whatever it is. -/
structure Closes (begun n : Nat) (forgetting : Bool) : Prop where
  closes : r.happens begun = .begin (.disconnect forgetting)
  runs : ∃ reply, r.Runs n begun.repr (closing forgetting reply)

/-! ### What is left of the tasks -/

/-- How far the task of the name has got. -/
inductive Stage (n : Nat) (name : String) : ConsoleTask (Option (Except Error Returned)) → Prop
  | aloof {t : ConsoleTask (Option (Except Error Returned))} (aloof : Aloof t) : Stage n name t
  | starting (begun : Nat) (probes : r.Probes begun) (named : name = begun.repr) :
    Stage n name Action.start.task
  | checking (begun : Nat) (probes : r.Probes begun) (named : name = begun.repr) :
    Stage n name Action.checkStatus.task
  | landing (begun : Nat) (probes : r.Probes begun) (named : name = begun.repr) (c : Console)
    (token : String) (reply : Reply) (known : c.tokens.get? = some token)
    (heard : r.Heard begun n c.statusRequest reply) : Stage n name (landing reply)
  | connecting (begun : Nat) (forgetting : Bool) (credentials : Credentials)
    (begins : r.happens begun = .begin (.connect forgetting credentials))
    (named : name = begun.repr) : Stage n name (Action.connect forgetting credentials).task
  | granting (begun : Nat) (forgetting : Bool) (credentials : Credentials)
    (begins : r.happens begun = .begin (.connect forgetting credentials))
    (named : name = begun.repr) (c : Console) (reply : Reply)
    (heard : r.Heard begun n (connectRequest credentials c) reply) :
    Stage n name (granting forgetting reply)
  | disconnecting (begun : Nat) (forgetting : Bool)
    (begins : r.happens begun = .begin (.disconnect forgetting)) (named : name = begun.repr) :
    Stage n name (Action.disconnect forgetting).task
  | closing (begun : Nat) (forgetting : Bool)
    (begins : r.happens begun = .begin (.disconnect forgetting)) (named : name = begun.repr)
    (reply : Reply) : Stage n name (closing forgetting reply)

/-- What a visit leaves of a task: it is done with the session, or waits for its turn to check it,
or asks. -/
inductive Rest (name : String) (c : Console) :
    ConsoleTask (Option (Except Error Returned)) → Prop
  | aloof {t : ConsoleTask (Option (Except Error Returned))} (aloof : Aloof t) : Rest name c t
  | checking (begun : Nat) (probes : r.Probes begun) (named : name = begun.repr) :
    Rest name c Action.checkStatus.task
  | probing (begun : Nat) (probes : r.Probes begun) (named : name = begun.repr)
    (has : c.tokens.has = true) : Rest name c (.call statusRequest landing)
  | presenting (begun : Nat) (forgetting : Bool) (credentials : Credentials)
    (begins : r.happens begun = .begin (.connect forgetting credentials))
    (named : name = begun.repr) :
    Rest name c (.call (connectRequest credentials) (granting forgetting))
  | leaving (begun : Nat) (forgetting : Bool)
    (begins : r.happens begun = .begin (.disconnect forgetting)) (named : name = begun.repr) :
    Rest name c (.call disconnectRequest (closing forgetting))

/-- What happens at a point does this to the session and its token. -/
inductive Step (n : Nat) : Prop
  | mild (mild : Mild (r.console n) (r.console (n + 1)))
  | lands (begun : Nat) (token : String) (reply : Reply) (lands : r.Lands begun n token reply)
    (concludes : Concludes (r.console n) (r.console (n + 1)) reply.report)
  | grants (begun : Nat) (forgetting : Bool) (grant : Grant)
    (grants : r.Grants begun n forgetting grant)
    (session : (r.console (n + 1)).session =
      .connected (some grant.database) (some grant.engine))
  | closes (begun : Nat) (forgetting : Bool) (closes : r.Closes begun n forgetting)
    (tokens : (r.console (n + 1)).tokens = (r.console n).tokens.cleared ∨
      (r.console (n + 1)).tokens = (r.console n).tokens.cleared.cleared)
    (session : (r.console (n + 1)).session = .plain .disconnected)

variable {r} {n place waits : Nat} {name : String}
  {t : ConsoleTask (Option (Except Error Returned))}

/-- A visit leaves the console as the task has made it, with the departures taken up. -/
theorem console_succ (happens : r.happens n = .visit place waits)
    (found : (r.pool n).threads[place]? = some (name, .ready t)) :
    r.console (n + 1) = { (t.advanceThrough waits (r.console n)).1 with
      cache := (t.advanceThrough waits (r.console n)).1.cache.takeDepartures.2 } := by
  rw [console, pool_succ, happens, Happening.apply, Pool.state_visit found]
  rfl

theorem Stage.visit (happens : r.happens n = .visit place waits)
    (found : (r.pool n).threads[place]? = some (name, .ready t)) (stage : r.Stage n name t) :
    r.Step n ∧ r.Rest name (t.advanceThrough waits (r.console n)).1
      (t.advanceThrough waits (r.console n)).2 := by
  have after := console_succ happens found
  have runs : r.Runs n name t := ⟨place, waits, happens, found⟩
  have checks (begun : Nat) (probes : r.Probes begun) (named : name = begun.repr)
      (ran : ∃ c' rest, t.advanceThrough waits (r.console n) = (c', rest) ∧
        Mild (r.console n) c' ∧ (rest = Action.checkStatus.task ∨ rest = .done none ∨
          ((r.console n).tokens.has = true ∧ rest = .call statusRequest Console.landing))) :
      r.Step n ∧ r.Rest name (t.advanceThrough waits (r.console n)).1
        (t.advanceThrough waits (r.console n)).2 := by
    obtain ⟨c', rest, ran, mild, ends⟩ := ran
    rw [ran] at after ⊢
    refine ⟨.mild (after ▸ ⟨mild.tokens, mild.session⟩), ?_⟩
    rcases ends with rfl | rfl | ⟨has, rfl⟩
    · exact .checking begun probes named
    · exact .aloof trivial
    · exact .probing begun probes named (mild.tokens ▸ has)
  have quiet (rest : ConsoleTask (Option (Except Error Returned)))
      (ran : t.advanceThrough waits (r.console n) = (r.console n, rest))
      (ends : r.Rest name (r.console n) rest) :
      r.Step n ∧ r.Rest name (t.advanceThrough waits (r.console n)).1
        (t.advanceThrough waits (r.console n)).2 := by
    rw [ran] at after ⊢
    exact ⟨.mild (after ▸ ⟨rfl, Or.inl rfl⟩), ends⟩
  cases stage with
  | aloof aloof =>
    obtain ⟨session, tokens, rest⟩ := aloof.advanceThrough waits (r.console n)
    exact ⟨.mild (after ▸ ⟨tokens, Or.inl session⟩), .aloof rest⟩
  | starting begun probes named =>
    exact checks begun probes named (exists_advanceThrough_start waits (r.console n))
  | checking begun probes named =>
    exact checks begun probes named (exists_advanceThrough_checkStatus waits (r.console n))
  | landing begun probes named c token reply known heard =>
    obtain ⟨c', ran, concludes⟩ := exists_advanceThrough_landing waits (r.console n) reply
    rw [ran] at after ⊢
    have landed : r.Lands begun n token reply := ⟨probes, ⟨c, known, heard⟩, named ▸ runs⟩
    exact ⟨.lands begun token reply landed (after ▸ concludes.withCache _), .aloof trivial⟩
  | connecting begun forgetting credentials begins named =>
    cases valid : credentials.validate with
    | error e =>
      refine quiet (.done (some (.error e))) ?_ (.aloof trivial)
      rw [connect_task, valid]
      exact Task.advanceThrough_done waits (r.console n) _
    | ok _ =>
      refine quiet _ ?_ (.presenting begun forgetting credentials begins named)
      rw [connect_task, valid]
      exact Task.advanceThrough_call waits (r.console n) _ _
  | granting begun forgetting credentials begins named c reply heard =>
    rcases advanceThrough_granting waits (r.console n) forgetting reply with
      ⟨⟨e, ran⟩, _⟩ | ⟨grant, c', granted, ran, stored, session⟩
    · exact quiet _ ran (.aloof trivial)
    · obtain ⟨session', tokens', rest⟩ :=
        (aloof_opened forgetting (.ok grant)).advanceThrough waits c'
      rw [ran] at after ⊢
      refine ⟨.grants begun forgetting grant ⟨⟨credentials, c, reply, begins, heard, granted,
        named ▸ runs⟩, ?_⟩ ?_, .aloof rest⟩
      · rw [stored, after]
        exact congrArg _ tokens'.symm
      · rw [after]
        exact session'.trans session
  | disconnecting begun forgetting begins named =>
    refine quiet _ ?_ (.leaving begun forgetting begins named)
    rw [disconnect_task]
    exact Task.advanceThrough_call waits (r.console n) _ _
  | closing begun forgetting begins named reply =>
    obtain ⟨outcome, c', ran, tokens, session⟩ :=
      advanceThrough_closing waits (r.console n) forgetting reply
    obtain ⟨session', tokens', rest⟩ := (aloof_closed forgetting outcome).advanceThrough waits c'
    rw [ran] at after ⊢
    refine ⟨.closes begun forgetting ⟨begins, reply, named ▸ runs⟩ ?_ ?_, .aloof rest⟩
    · rw [after]
      exact tokens.imp tokens'.trans tokens'.trans
    · rw [after]
      exact session'.trans session

/-! ### The stages of a course -/

theorem Heard.later {begun : Nat} {request : Request} {reply : Reply}
    (heard : r.Heard begun n request reply) : r.Heard begun (n + 1) request reply := by
  obtain ⟨sent, before, asked⟩ := heard
  exact ⟨sent, Nat.lt_succ_of_lt before, asked⟩

theorem Stage.later (stage : r.Stage n name t) : r.Stage (n + 1) name t := by
  cases stage with
  | aloof aloof => exact .aloof aloof
  | starting begun probes named => exact .starting begun probes named
  | checking begun probes named => exact .checking begun probes named
  | landing begun probes named c token reply known heard =>
    exact .landing begun probes named c token reply known heard.later
  | connecting begun forgetting credentials begins named =>
    exact .connecting begun forgetting credentials begins named
  | granting begun forgetting credentials begins named c reply heard =>
    exact .granting begun forgetting credentials begins named c reply heard.later
  | disconnecting begun forgetting begins named =>
    exact .disconnecting begun forgetting begins named
  | closing begun forgetting begins named reply =>
    exact .closing begun forgetting begins named reply

/-- An action is at its first stage when it is begun. -/
theorem stage_of_begin {action : Action} (begins : r.happens n = .begin action) (m : Nat) :
    r.Stage m n.repr action.task := by
  cases action with
  | start => exact .starting n (Or.inl begins) rfl
  | checkStatus => exact .checking n (Or.inr begins) rfl
  | connect forgetting credentials => exact .connecting n forgetting credentials begins rfl
  | disconnect forgetting => exact .disconnecting n forgetting begins rfl
  | operate operation => exact .aloof (.of_work (.operate operation))
  | dropTable table confirmed => exact .aloof (.of_work (StoreWork.dropTable _ _).returning)
  | alterTable table change confirmed => exact .aloof (.of_work (StoreWork.alterTable _ _ _).returning)
  | executeSql request confirmed => exact .aloof (.of_work (StoreWork.executeSql _ _).returning)
  | selectedRows policy => exact .aloof (.of_work (StoreWork.selectedRows policy).reporting)

/-- What a visit has left of a task is at its next stage, as soon as it has its answer. -/
theorem Rest.next {c sender : Console} {left : ConsoleTask (Option (Except Error Returned))}
    (rest : r.Rest name c left) (runs : r.Runs n name t) (same : sender.tokens = c.tokens) :
    left.Resumes (fun question reply => r.exchange? n = some (question sender, reply))
      (r.Stage (n + 1) name) := by
  cases rest with
  | aloof aloof =>
    cases left with
    | call question next => exact fun reply _ => .aloof (aloof reply)
    | _ => exact .aloof aloof
  | checking begun probes named =>
    have stage : r.Stage (n + 1) name Action.checkStatus.task := .checking begun probes named
    rw [checkStatus_task] at stage ⊢
    exact stage
  | probing begun probes named has =>
    intro reply asked
    rw [TokenStore.has, Option.isSome_iff_exists, ← same] at has
    obtain ⟨token, known⟩ := has
    exact .landing begun probes named sender token reply known
      ⟨n, Nat.lt_succ_self n, ⟨t, named ▸ runs⟩, asked⟩
  | presenting begun forgetting credentials begins named =>
    exact fun reply asked => .granting begun forgetting credentials begins named sender reply
      ⟨n, Nat.lt_succ_self n, ⟨t, named ▸ runs⟩, asked⟩
  | leaving begun forgetting begins named =>
    exact fun reply _ => .closing begun forgetting begins named reply

variable (r)

theorem stages (n : Nat) : (r.pool n).AllLeft (r.Stage n) := by
  induction n with
  | zero => exact .init _ _
  | succ n ih =>
    refine allLeft_succ ih (fun _ _ => Stage.later) ?_ ?_ ?_
    · exact fun action happens => stage_of_begin happens (n + 1)
    · intro place waits name t happens found stage
      refine (Stage.visit happens found stage).2.next ⟨place, waits, happens, found⟩ ?_
      rw [console_succ happens found]
    · intro c t among
      obtain ⟨f, _, _, rfl⟩ := exists_flying_of_started among
      exact .aloof (Aloof.fly _ f)

/-- Whatever happens to the session is one of these. -/
theorem step (n : Nat) : r.Step n := by
  cases happens : r.happens n with
  | visit place waits =>
    by_cases ready : ∃ name t, (r.pool n).threads[place]? = some (name, .ready t)
    · obtain ⟨name, t, found⟩ := ready
      exact (Stage.visit happens found (r.stages n name _ (List.mem_of_getElem? found))).1
    · have same : r.pool (n + 1) = r.pool n := by
        rw [pool_succ, happens]
        exact (Pool.visit_of_not_ready fun name t found => ready ⟨name, t, found⟩).1
      refine .mild ?_
      rw [console, console, same]
      exact .refl _
  | _ =>
    refine .mild ?_
    rw [console, console, pool_succ, happens]
    exact ⟨rfl, Or.inl rfl⟩

/-- The token that is stored. -/
def token (n : Nat) : Option String :=
  (r.console n).tokens.get?

variable {r}

/-- When a check takes in the reply, the session is at once what the reply makes of it. -/
theorem Lands.concludes {begun : Nat} {token : String} {reply : Reply}
    (lands : r.Lands begun n token reply) :
    Concludes (r.console n) (r.console (n + 1)) reply.report ∧ r.exchange? n = none := by
  obtain ⟨place, waits, happens, found⟩ := lands.runs
  obtain ⟨c', ran, concludes⟩ := exists_advanceThrough_landing waits (r.console n) reply
  have after := console_succ happens found
  rw [ran] at after
  refine ⟨after ▸ concludes.withCache _, ?_⟩
  rw [exchange?, happens]
  dsimp only
  rw [Pool.asked?_of_ready found]
  change Pool.exchange? _ _ (Task.advanceThrough _ waits (r.console n)).2 = none
  rw [ran]
  rfl

/-- Where an open session comes from: it was open before, a check has found it there, or credentials
have opened it. -/
inductive Opening (r : Course E) (n : Nat) : Prop
  | kept (session : (r.console (n + 1)).session = (r.console n).session)
    (tokens : (r.console (n + 1)).tokens = (r.console n).tokens)
  | found (begun : Nat) (token : String) (reply : Reply) (report : StatusReport)
    (lands : r.Lands begun n token reply) (read : reply.report = .ok report)
    (open_ : report.connected = true) (tokens : (r.console (n + 1)).tokens = (r.console n).tokens)
    (session : (r.console (n + 1)).session = .connected report.database report.engine)
  | granted (begun : Nat) (forgetting : Bool) (grant : Grant)
    (grants : r.Grants begun n forgetting grant)
    (session : (r.console (n + 1)).session = .connected (some grant.database) (some grant.engine))

theorem opening (connected : (r.console (n + 1)).session.isConnected = true) : r.Opening n := by
  have shut {status : SessionStatus} (apart : status ≠ .connected)
      (session : (r.console (n + 1)).session = .plain status) : False := by
    rw [session] at connected
    exact apart (beq_iff_eq.mp connected)
  cases r.step n with
  | mild mild =>
    rcases mild.session with same | checking | ⟨ended, _⟩
    · exact .kept same mild.tokens
    · exact (shut (by decide) checking).elim
    · exact (shut (by decide) ended).elim
  | lands begun token reply lands concludes =>
    by_cases connects : Connects reply.report
    · obtain ⟨report, read, open_⟩ := connects
      obtain ⟨tokens, session⟩ := concludes.of_connected read open_
      exact .found begun token reply report lands read open_ tokens session
    · exact (shut (by decide) (concludes.of_not_connects connects).2).elim
  | grants begun forgetting grant grants session =>
    exact .granted begun forgetting grant grants session
  | closes _ _ _ _ session => exact (shut (by decide) session).elim

/-- A store in memory remains one. -/
theorem exists_tokens_eq_memory (memory : ∃ token?, r.tokens = .memory token?) (n : Nat) :
    ∃ token?, (r.console n).tokens = .memory token? := by
  induction n with
  | zero => exact memory
  | succ n ih =>
    obtain ⟨token?, same⟩ := ih
    cases r.step n with
    | mild mild => exact ⟨token?, mild.tokens.trans same⟩
    | lands begun token reply lands concludes =>
      by_cases connects : Connects reply.report
      · obtain ⟨report, read, open_⟩ := connects
        exact ⟨token?, (concludes.of_connected read open_).1.trans same⟩
      · exact ⟨none, by rw [(concludes.of_not_connects connects).1, same]; rfl⟩
    | grants begun forgetting grant grants session =>
      have stored := grants.stored
      rw [same] at stored
      exact ⟨some grant.token, (Except.ok.inj stored).symm⟩
    | closes begun forgetting closes tokens session =>
      rcases tokens with tokens | tokens <;> exact ⟨none, by rw [tokens, same]; rfl⟩

theorem token_of_grants (memory : ∃ token?, r.tokens = .memory token?) {begun : Nat}
    {forgetting : Bool} {grant : Grant} (grants : r.Grants begun n forgetting grant) :
    r.token (n + 1) = some grant.token := by
  obtain ⟨token?, same⟩ := exists_tokens_eq_memory memory n
  have stored := grants.stored
  rw [same] at stored
  rw [token, ← Except.ok.inj stored]
  rfl

end DbConsole.Console.Course

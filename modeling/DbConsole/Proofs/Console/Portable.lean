import DbConsole.Proofs.Console.Life
import DbConsole.Proofs.Token.EitherStore

/-!
Tasks that do not mind where the token is kept. All that they are told of the store is the token, so they
do the same when a faithful store on disk is replaced by one for the run of the program, as long as they
are not to store an empty token.
-/
set_option autoImplicit false

namespace DbConsole.Console

variable {α β : Type}

/-- The console with its token kept for the run of the program. -/
def inMemory (c : Console) : Console :=
  { c with tokens := .memory c.tokens.get? }

theorem inMemory_transition (c : Console) (session : Session) :
    (c.transition session).inMemory = c.inMemory.transition session := by
  unfold transition
  change _ = if c.session = session then _ else _
  split <;> rfl

/-- If the request presents credentials, the reply grants no empty token. -/
def Earns (request : Request) (reply : Reply) : Prop :=
  (∃ credentials c, connectRequest credentials c = request) →
    ∀ grant, reply.grant = .ok grant → grant.token ≠ ""

/-- The task does the same with the token kept for the run of the program. -/
def Portable : ConsoleTask α → Prop
  | .done _ => True
  | .act update next => ∀ c, c.tokens.Faithful → (update c).tokens.Faithful ∧
      (update c).inMemory = update c.inMemory ∧ next c.inMemory = next c ∧ Portable (next c)
  | .wait ready next => (∀ c, ready c.inMemory = ready c) ∧ Portable next
  | .call question next => (∀ c, question c.inMemory = question c) ∧
      ∀ c reply, Earns (question c) reply → Portable (next reply)
  | .sleep _ next => Portable next

namespace Portable

theorem bind {t : ConsoleTask α} {k : α → ConsoleTask β} (portable : Portable t)
    (rest : ∀ a, Portable (k a)) : Portable (t.bind k) := by
  induction t with
  | done a => exact rest a
  | act update next ih =>
    intro c faithful
    obtain ⟨faithful', update_same, next_same, further⟩ := portable c faithful
    exact ⟨faithful', update_same, congrArg (Task.bind · k) next_same, ih c further⟩
  | wait ready next ih => exact ⟨portable.1, ih portable.2⟩
  | call question next ih =>
    exact ⟨portable.1, fun c reply earns => ih reply (portable.2 c reply earns)⟩
  | sleep time next ih => exact ih portable

/-- A visit brings the task equally far. -/
theorem advanceThrough {t : ConsoleTask α} (portable : Portable t) : ∀ (waits : Nat) {c : Console},
    c.tokens.Faithful →
      t.advanceThrough waits c.inMemory =
        ((t.advanceThrough waits c).1.inMemory, (t.advanceThrough waits c).2) ∧
      (t.advanceThrough waits c).1.tokens.Faithful ∧ Portable (t.advanceThrough waits c).2 := by
  induction t with
  | done a =>
    intro waits c faithful
    rw [Task.advanceThrough_done, Task.advanceThrough_done]
    exact ⟨rfl, faithful, trivial⟩
  | act update next ih =>
    intro waits c faithful
    obtain ⟨faithful', update_same, next_same, further⟩ := portable c faithful
    rw [Task.advanceThrough_act, Task.advanceThrough_act, next_same, ← update_same]
    exact ih c further waits faithful'
  | wait ready next ih =>
    intro waits c faithful
    cases waits with
    | zero => exact ⟨rfl, faithful, portable⟩
    | succ fewer =>
      have through (c : Console) (go : ready c = true) :
          (Task.wait ready next : ConsoleTask α).advanceThrough (fewer + 1) c =
            next.advanceThrough fewer c := by
        rw [Task.advanceThrough, Task.reach, if_pos go, Task.advanceBy, if_pos go, Task.advanceThrough]
      have stays (c : Console) (stop : ¬ ready c = true) :
          (Task.wait ready next : ConsoleTask α).advanceThrough (fewer + 1) c =
            (c, .wait ready next) := by
        rw [Task.advanceThrough, Task.reach, if_neg stop]
        rfl
      by_cases go : ready c = true
      · rw [through c go, through c.inMemory ((portable.1 c).trans go)]
        exact ih portable.2 fewer faithful
      · rw [stays c go, stays c.inMemory (portable.1 c ▸ go)]
        exact ⟨rfl, faithful, portable⟩
  | call question next _ =>
    intro waits c faithful
    rw [Task.advanceThrough_call, Task.advanceThrough_call]
    exact ⟨rfl, faithful, portable⟩
  | sleep time next _ =>
    intro waits c faithful
    cases waits <;> exact ⟨rfl, faithful, portable⟩

/-! ### What tasks are made of -/

theorem look {f : Console → α} (same : ∀ c, f c.inMemory = f c) :
    Portable (Task.look f : ConsoleTask α) :=
  fun c faithful => ⟨faithful, rfl, congrArg Task.done (same c), trivial⟩

theorem change {f : Console → Console} (same : ∀ c, (f c).inMemory = f c.inMemory)
    (tokens : ∀ c, (f c).tokens = c.tokens) : Portable (Task.change f : ConsoleTask Unit) :=
  fun c faithful => ⟨(tokens c).symm ▸ faithful, same c, rfl, trivial⟩

theorem select (f : Workspace → Workspace) :
    Portable (Task.change (onWorkspace f) : ConsoleTask Unit) :=
  change (fun _ => rfl) fun _ => rfl

theorem transition (session : Session) :
    Portable (Task.change (·.transition session) : ConsoleTask Unit) :=
  change (fun c => inMemory_transition c session) fun c => tokens_transition c session

theorem waiting {ready : Console → Bool} (same : ∀ c, ready c.inMemory = ready c) :
    Portable (.wait ready (.done ()) : ConsoleTask Unit) :=
  ⟨same, trivial⟩

theorem until? {f : Console → Option α} (same : ∀ c, f c.inMemory = f c) (fallback : α) :
    Portable (Task.until? f fallback : ConsoleTask α) :=
  ⟨fun c => congrArg Option.isSome (same c), look fun c => congrArg (Option.getD · fallback) (same c)⟩

/-- Work that a success and a failure are followed by. -/
theorem behind {t : ConsoleTask (Except Error α)} {k : Except Error α → ConsoleTask β}
    (portable : Portable t) (fails : ∀ e, Portable (k (.error e))) (rest : ∀ a, Portable (k (.ok a))) :
    Portable (t.bind k) :=
  portable.bind fun outcome => match outcome with
    | .error e => fails e
    | .ok a => rest a

theorem map {t : ConsoleTask α} (portable : Portable t) (f : α → β) :
    Portable (t.bind fun a => .done (f a)) :=
  portable.bind fun _ => trivial

/-! ### The work of the store -/

theorem send [Wire α] (method : Method) (endpoint : Endpoint) (body : Option Json) :
    Portable (Console.send α method endpoint body) :=
  ⟨fun _ => rfl, fun _ _ _ => trivial⟩

/-- The work of the store does not ask where the token is kept. -/
theorem of_work {t : ConsoleTask α} (work : StoreWork t) : Portable t := by
  induction work with
  | done a => trivial
  | bind first rest portable follow => exact portable.bind follow
  | look apart => exact look fun c => apart c _
  | until? apart fallback => exact until? (fun c => apart c _) fallback
  | startRead key policy => exact ⟨fun _ => rfl, fun _ faithful => ⟨faithful, rfl, rfl, trivial⟩⟩
  | send method endpoint body => exact send _ _ _
  | applyPlan plan => exact ⟨fun _ => rfl, fun _ faithful => ⟨faithful, rfl, rfl, trivial⟩⟩
  | select onward => exact select _

/-! ### Fetches -/

theorem fetchPayload (key : Key) : Portable (Console.fetchPayload key) := by
  obtain ⟨_, _, wrap, sends, same⟩ := Sends.fetchPayload key
  rw [same]
  exact (of_work (.of_sends sends)).map _

theorem attempts {t : ConsoleTask (Except Error Payload)} (portable : Portable t)
    (delay left : Nat) : Portable (Cache.attempts t delay left) := by
  induction left with
  | zero => exact portable
  | succ left ih =>
    refine portable.behind (fun e => ?_) fun v => trivial
    dsimp only
    split
    · exact ih
    · trivial

theorem fly {R : Type} (settings : CacheSettings) (f : Flight Unit) :
    Portable (flying settings f : ConsoleTask (Option R)) := by
  refine Portable.bind ?_ fun _ => trivial
  refine (attempts (fetchPayload f.key) _ _).bind fun outcome => ?_
  exact ⟨fun _ => rfl, change (fun _ => rfl) fun _ => rfl⟩

/-! ### The work on the session -/

theorem setToken {token : String} (full : token ≠ "") : Portable (Console.setToken token) := by
  intro c faithful
  obtain ⟨tokens, set, faithful', got⟩ := faithful.set full
  dsimp only
  rw [set]
  exact ⟨faithful', congrArg (fun token => { c with tokens := .memory token }) got, rfl, trivial⟩

theorem clearToken : Portable Console.clearToken := by
  intro c faithful
  obtain ⟨tokens, cleared, faithful', got⟩ := faithful.clear
  dsimp only
  rw [cleared]
  exact ⟨faithful', congrArg (fun token => { c with tokens := .memory token }) got, rfl, trivial⟩

theorem concludeProbe (report : Except Error StatusReport) :
    Portable (Console.concludeProbe report) := by
  have ending : Portable (Console.clearToken.bind fun _ =>
      Task.change fun c : Console => c.transition (.plain .disconnected)) :=
    clearToken.bind fun _ => transition _
  cases report with
  | error e => exact ending
  | ok r =>
    rw [Console.concludeProbe]
    split
    · exact transition _
    · exact ending

theorem checking : Portable (Task.change fun c =>
    if c.session.isConnected then c else c.transition (.plain .checking) : ConsoleTask Unit) := by
  refine change (fun c => ?_) fun c => ?_
  · change _ = if c.session.isConnected then c.inMemory else c.inMemory.transition (.plain .checking)
    split
    · rfl
    · exact inMemory_transition _ _
  · split
    · rfl
    · exact tokens_transition _ _

theorem probing (probing : Bool) :
    Portable (Task.change fun c => { c with probing := probing } : ConsoleTask Unit) :=
  change (fun _ => rfl) fun _ => rfl

theorem checkStatus : Portable Console.checkStatus := by
  refine (waiting fun _ => rfl).bind fun _ => (probing true).bind fun _ =>
    (look fun _ => rfl).bind fun has => ?_
  have behind : Portable ((Task.change fun c : Console => { c with probing := false }).bind fun _ =>
      Task.look (·.session) : ConsoleTask Session) :=
    (probing false).bind fun _ => look fun _ => rfl
  split
  · refine checking.bind fun _ => (send _ _ _).bind fun report => ?_
    exact (concludeProbe report).bind fun _ => behind
  · exact (transition _).bind fun _ => behind

theorem start : Portable Console.start := by
  refine Portable.bind (change (fun c => ?_) fun c => ?_) fun _ => checkStatus
  · change _ = if c.session.status = .uninitialized then _ else _
    dsimp only
    split
    · exact inMemory_transition _ _
    · rfl
  · dsimp only
    split
    · exact tokens_transition _ _
    · rfl

theorem authenticate (credentials : Credentials) : Portable (Console.authenticate credentials) := by
  rw [Console.authenticate]
  cases credentials.validate with
  | error e => trivial
  | ok u =>
    refine ⟨fun _ => rfl, fun c reply earns => ?_⟩
    have full := earns ⟨credentials, c, rfl⟩
    change Portable ((Task.done reply.grant : ConsoleTask (Except Error Grant)).bind _)
    cases read : reply.grant with
    | error e => trivial
    | ok grant => exact (setToken (full grant read)).map _

theorem openSession (credentials : Credentials) : Portable (Console.openSession credentials) := by
  refine (authenticate credentials).behind (fun _ => trivial) fun grant => ?_
  exact (transition _).bind fun _ => trivial

theorem signOff : Portable Console.signOff :=
  (send _ _ _).behind (fun _ => trivial) fun _ => clearToken.bind fun _ => trivial

theorem closeSession : Portable Console.closeSession :=
  signOff.bind fun _ => clearToken.bind fun _ => (transition _).bind fun _ => trivial

theorem forget : Portable Console.forget := by
  have cleared : Portable (Task.change fun c => { c with cache := c.cache.clear } : ConsoleTask Unit) :=
    change (fun _ => rfl) fun _ => rfl
  exact (waiting fun _ => rfl).bind fun _ => cleared.bind fun _ => select _

theorem connect (credentials : Credentials) : Portable (Console.connect credentials) :=
  (openSession credentials).behind (fun _ => trivial) fun _ => forget.bind fun _ => trivial

theorem disconnect : Portable Console.disconnect :=
  closeSession.bind fun _ => forget.bind fun _ => trivial

/-! ### All that can be done -/

theorem whole (action : Action) : Portable action.whole := by
  cases action with
  | start => exact start.map _
  | checkStatus => exact checkStatus.map _
  | connect forgetting credentials =>
    cases forgetting with
    | true => exact (connect credentials).map _
    | false => exact (openSession credentials).map _
  | disconnect forgetting =>
    cases forgetting with
    | true => exact disconnect.map _
    | false => exact closeSession.map _
  | operate operation => exact (of_work (.operate operation)).map _
  | dropTable table confirmed => exact (of_work (StoreWork.dropTable table confirmed).returning).map _
  | alterTable table change confirmed =>
    exact (of_work (StoreWork.alterTable table change confirmed).returning).map _
  | executeSql request confirmed =>
    exact (of_work (StoreWork.executeSql request confirmed).returning).map _
  | selectedRows policy => exact (of_work (.selectedRows policy)).map _

end Portable

end DbConsole.Console

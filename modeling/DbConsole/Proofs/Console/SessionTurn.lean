import DbConsole.Proofs.Console.Conduct

/-!
What a visit to the work on the session does. Between the request and what is made of the reply
others come in; what is made of the reply is made at once.
-/
set_option autoImplicit false

namespace DbConsole

/-- The answer to a check of the session. -/
def Reply.report (reply : Reply) : Except Error StatusReport :=
  reply.read StatusReport "GET /status"

/-- The answer to credentials. -/
def Reply.grant (reply : Reply) : Except Error Grant :=
  reply.read Grant "POST /connect"

/-- The store when it has been told to forget its token. -/
def TokenStore.cleared (s : TokenStore) : TokenStore :=
  match s.clear with
  | .ok s' => s'
  | .error _ => s

namespace Console

def statusRequest (c : Console) : Request :=
  c.request .get (.ofSegments ["status"]) none

def connectRequest (credentials : Credentials) (c : Console) : Request :=
  c.request .post (.ofSegments ["connect"]) (some (Wire.toJson credentials).canonical)

def disconnectRequest (c : Console) : Request :=
  c.request .post (.ofSegments ["disconnect"]) none

@[simp] theorem session_transition (c : Console) (next : Session) :
    (c.transition next).session = next := by
  unfold transition
  split
  · assumption
  · rfl

@[simp] theorem tokens_transition (c : Console) (next : Session) :
    (c.transition next).tokens = c.tokens := by
  unfold transition
  split <;> rfl

@[simp] theorem cache_transition (c : Console) (next : Session) :
    (c.transition next).cache = c.cache := by
  unfold transition
  split <;> rfl

@[simp] theorem workspace_transition (c : Console) (next : Session) :
    (c.transition next).workspace = c.workspace := by
  unfold transition
  split <;> rfl

variable {α : Type}

/-! ### What is left when the reply has come -/

/-- What is left of a check of the session when the reply has come. -/
def settling (reply : Reply) : ConsoleTask Session :=
  (concludeProbe reply.report).bind fun _ =>
    (Task.change fun c : Console => { c with probing := false }).bind fun _ => Task.look Console.session

/-- What is left of the action that checks the session. -/
def landing (reply : Reply) : ConsoleTask (Option (Except Error Returned)) :=
  ((concludeProbe reply.report).bind fun _ =>
    (Task.change fun c => { c with probing := false }).bind fun _ =>
      Task.look Console.session).bind fun _ => .done none

/-- What comes behind the opening of a session. -/
def opened (forgetting : Bool) : Except Error Grant → ConsoleTask (Option (Except Error Returned))
  | .ok _ => if forgetting then forget.bind fun _ => .done none else .done none
  | .error e => .done (some (.error e))

/-- What is left of opening a session. -/
def granting (forgetting : Bool) (reply : Reply) : ConsoleTask (Option (Except Error Returned)) :=
  match reply.grant with
  | .ok grant =>
    (setToken grant.token).bind fun stored =>
      match stored with
      | .ok _ =>
        (Task.change fun c : Console =>
            c.transition (.connected (some grant.database) (some grant.engine))).bind
          fun _ => opened forgetting (.ok grant)
      | .error e => opened forgetting (.error e)
  | .error e => opened forgetting (.error e)

/-- What comes behind the closing of a session. -/
def closed (forgetting : Bool) (r : Except Error Unit) :
    ConsoleTask (Option (Except Error Returned)) :=
  if forgetting then forget.bind fun _ => .done (failure? r) else .done (failure? r)

/-- What is left of closing a session. -/
def closing (forgetting : Bool) (reply : Reply) : ConsoleTask (Option (Except Error Returned)) :=
  let ended := clearToken.bind fun cleared =>
    (Task.change fun c : Console => c.transition (.plain .disconnected)).bind fun _ =>
      closed forgetting cleared
  match reply.read Json "POST /disconnect" with
  | .ok _ => clearToken.bind fun _ => ended
  | .error _ => ended

theorem aloof_opened (forgetting : Bool) (granted : Except Error Grant) :
    Aloof (opened forgetting granted) := by
  cases granted with
  | error e => trivial
  | ok grant =>
    rw [opened]
    split
    · exact Aloof.forget.bind fun _ => trivial
    · trivial

theorem aloof_closed (forgetting : Bool) (r : Except Error Unit) : Aloof (closed forgetting r) := by
  rw [closed]
  split
  · exact Aloof.forget.bind fun _ => trivial
  · trivial

/-! ### Where the work begins -/

theorem checkStatus_bind (k : Session → ConsoleTask α) : Console.checkStatus.bind k =
    .wait (fun c : Console => !c.probing) (.act (fun c => { c with probing := true }) fun _ =>
      .act id fun c =>
        if c.tokens.has then
          .act (fun c => if c.session.isConnected then c else c.transition (.plain .checking))
            fun _ => .call statusRequest fun reply => (settling reply).bind k
        else
          .act (·.transition (.plain .disconnected)) fun _ =>
            .act (fun c => { c with probing := false }) fun _ => .act id fun c => k c.session) := by
  refine congrArg (Task.wait _) (congrArg (Task.act _) (funext fun _ => congrArg (Task.act id)
    (funext fun c => ?_)))
  by_cases has : c.tokens.has
  · simp only [has, if_true]
    rfl
  · simp only [has]
    rfl

theorem checkStatus_task : Action.checkStatus.task =
    .wait (fun c : Console => !c.probing) (.act (fun c => { c with probing := true }) fun _ =>
      .act id fun c =>
        if c.tokens.has then
          .act (fun c => if c.session.isConnected then c else c.transition (.plain .checking))
            fun _ => .call statusRequest landing
        else
          .act (·.transition (.plain .disconnected)) fun _ =>
            .act (fun c => { c with probing := false }) fun _ => .act id fun _ => .done none) :=
  checkStatus_bind fun _ => .done none

theorem connect_task (forgetting : Bool) (credentials : Credentials) :
    (Action.connect forgetting credentials).task =
      match credentials.validate with
      | .ok _ => .call (connectRequest credentials) (granting forgetting)
      | .error e => .done (some (.error e)) := by
  have same : (Action.connect forgetting credentials).task =
      (authenticate credentials).bind fun granted =>
        match granted with
        | .ok grant =>
          (Task.change fun c : Console =>
              c.transition (.connected (some grant.database) (some grant.engine))).bind
            fun _ => opened forgetting (.ok grant)
        | .error e => opened forgetting (.error e) := by
    cases forgetting with
    | true =>
      change ((openSession credentials).bind _).bind _ = _
      rw [openSession]
      change (((authenticate credentials).bind _).bind _).bind _ = _
      rw [Task.bind_bind, Task.bind_bind]
      refine congrArg _ (funext fun granted => ?_)
      cases granted <;> rfl
    | false =>
      change ((authenticate credentials).bind _).bind _ = _
      rw [Task.bind_bind]
      refine congrArg _ (funext fun granted => ?_)
      cases granted <;> rfl
  rw [same, authenticate]
  cases credentials.validate with
  | error e => rfl
  | ok u =>
    refine congrArg (Task.call _) (funext fun reply => ?_)
    have text : Method.post.name ++ " " ++ (Endpoint.ofSegments ["connect"]).display =
        "POST /connect" := rfl
    dsimp only [Task.bind]
    rw [text, granting, Reply.grant]
    cases reply.read Grant "POST /connect" with
    | error e => rfl
    | ok grant =>
      refine congrArg (Task.act _) (funext fun c => ?_)
      dsimp only [Task.bind]
      cases c.tokens.set grant.token <;> rfl

theorem disconnect_task (forgetting : Bool) :
    (Action.disconnect forgetting).task = .call disconnectRequest (closing forgetting) := by
  have text : Method.post.name ++ " " ++ (Endpoint.ofSegments ["disconnect"]).display =
      "POST /disconnect" := rfl
  cases forgetting <;> refine congrArg (Task.call _) (funext fun reply => ?_)
  all_goals
    dsimp only [Task.bind]
    rw [text, closing]
    cases reply.read Json "POST /disconnect" <;> rfl

/-! ### Visits -/

variable (waits : Nat) (c : Console)

/-- No reply has been taken in: the token is the same, and the session is at most being checked, or
found to be over where there is no token. -/
structure Mild (c c' : Console) : Prop where
  tokens : c'.tokens = c.tokens
  session : c'.session = c.session ∨ c'.session = .plain .checking ∨
    (c'.session = .plain .disconnected ∧ c.tokens.has = false)

theorem Mild.refl : Mild c c :=
  ⟨rfl, Or.inl rfl⟩

theorem Mild.trans {c c' c'' : Console} (first : Mild c c') (second : Mild c' c'') :
    Mild c c'' where
  tokens := second.tokens.trans first.tokens
  session := by
    rcases second.session with same | checking | ⟨ended, none⟩
    · rw [same]
      exact first.session
    · exact Or.inr (Or.inl checking)
    · exact Or.inr (Or.inr ⟨ended, first.tokens ▸ none⟩)

theorem exists_advanceThrough_checkStatus :
    ∃ c' rest, Action.checkStatus.task.advanceThrough waits c = (c', rest) ∧ Mild c c' ∧
      (rest = Action.checkStatus.task ∨ rest = .done none ∨
        (c.tokens.has = true ∧ rest = .call statusRequest landing)) := by
  rw [checkStatus_task]
  rcases Task.advanceThrough_wait waits c (fun c : Console => !c.probing) (.act _ _) with
    same | ⟨_, fewer, same⟩
  · exact ⟨c, _, same, .refl c, Or.inl rfl⟩
  · rw [same, Task.advanceThrough_act, Task.advanceThrough_act]
    dsimp only [id]
    split
    · rename_i has
      rw [Task.advanceThrough_act, Task.advanceThrough_call]
      refine ⟨_, _, rfl, ⟨?_, ?_⟩, Or.inr (Or.inr ⟨has, rfl⟩)⟩
      · split <;> simp
      · split <;> simp
    · rename_i none
      rw [Task.advanceThrough_act, Task.advanceThrough_act, Task.advanceThrough_act,
        Task.advanceThrough_done]
      refine ⟨_, _, rfl, ⟨by simp, Or.inr (Or.inr ⟨by simp, ?_⟩)⟩, Or.inr (Or.inl rfl)⟩
      simpa using none

theorem exists_advanceThrough_start :
    ∃ c' rest, Action.start.task.advanceThrough waits c = (c', rest) ∧ Mild c c' ∧
      (rest = Action.checkStatus.task ∨ rest = .done none ∨
        (c.tokens.has = true ∧ rest = .call statusRequest landing)) := by
  let begun : Console :=
    let c := { c with collecting := true }
    if c.session.status = .uninitialized then c.transition (.plain .checking) else c
  have first : Mild c begun := by
    refine ⟨?_, ?_⟩
    · dsimp only [begun]
      split <;> simp
    · dsimp only [begun]
      split <;> simp
  have same : Action.start.task.advanceThrough waits c =
      Action.checkStatus.task.advanceThrough waits begun := by
    change (Task.act _ fun _ => Action.checkStatus.task).advanceThrough waits c = _
    rw [Task.advanceThrough_act]
  obtain ⟨c', rest, ran, second, ends⟩ := exists_advanceThrough_checkStatus waits begun
  exact ⟨c', rest, same.trans ran, first.trans second, first.tokens ▸ ends⟩

/-- The answer says that a database is open. -/
def Connects (report : Except Error StatusReport) : Prop :=
  ∃ r, report = .ok r ∧ r.connected = true

/-- What the answer to a check makes of the console. -/
inductive Concludes (c c' : Console) : Except Error StatusReport → Prop
  | connected (r : StatusReport) (open_ : r.connected = true) (tokens : c'.tokens = c.tokens)
      (session : c'.session = .connected r.database r.engine) : Concludes c c' (.ok r)
  | ends (report : Except Error StatusReport) (shut : ¬ Connects report)
      (tokens : c'.tokens = c.tokens.cleared) (session : c'.session = .plain .disconnected) :
      Concludes c c' report

theorem Concludes.withCache {c c' : Console} {report : Except Error StatusReport}
    (concludes : Concludes c c' report) (cache : Cache Payload Unit) :
    Concludes c { c' with cache := cache } report := by
  cases concludes with
  | connected r open_ tokens session => exact .connected r open_ tokens session
  | ends report shut tokens session => exact .ends report shut tokens session

theorem Concludes.of_connected {c c' : Console} {report : Except Error StatusReport}
    {r : StatusReport} (concludes : Concludes c c' report) (read : report = .ok r)
    (open_ : r.connected = true) :
    c'.tokens = c.tokens ∧ c'.session = .connected r.database r.engine := by
  cases concludes with
  | connected _ _ tokens session =>
    cases read
    exact ⟨tokens, session⟩
  | ends _ shut _ _ => exact absurd ⟨r, read, open_⟩ shut

theorem Concludes.of_not_connects {c c' : Console} {report : Except Error StatusReport}
    (concludes : Concludes c c' report) (shut : ¬ Connects report) :
    c'.tokens = c.tokens.cleared ∧ c'.session = .plain .disconnected := by
  cases concludes with
  | connected r open_ _ _ => exact absurd ⟨r, rfl, open_⟩ shut
  | ends _ _ tokens session => exact ⟨tokens, session⟩

theorem exists_advanceThrough_clearToken {α : Type} (k : Except Error Unit → ConsoleTask α) :
    ∃ cleared, (clearToken.bind k).advanceThrough waits c =
      (k cleared).advanceThrough waits { c with tokens := c.tokens.cleared } := by
  change ∃ cleared, (Task.act _ _).advanceThrough waits c = _
  rw [Task.advanceThrough_act, TokenStore.cleared]
  dsimp only [Task.bind]
  cases c.tokens.clear with
  | ok tokens => exact ⟨.ok (), rfl⟩
  | error e => exact ⟨.error e, rfl⟩

/-- What is made of the answer to a check is made at once. -/
theorem exists_advanceThrough_landing (reply : Reply) :
    ∃ c', (landing reply).advanceThrough waits c = (c', .done none) ∧
      Concludes c c' reply.report := by
  let rest : ConsoleTask (Option (Except Error Returned)) :=
    ((Task.change fun c : Console => { c with probing := false }).bind fun _ =>
      Task.look Console.session).bind fun _ => .done none
  have same : landing reply = (concludeProbe reply.report).bind fun _ => rest :=
    Task.bind_bind _ _ _
  have ends (c : Console) :
      rest.advanceThrough waits c = ({ c with probing := false }, .done none) := by
    cases waits <;> rfl
  have shut (report : Except Error StatusReport) (shut : ¬ Connects report)
      (ended : concludeProbe report = clearToken.bind fun _ =>
        Task.change fun c : Console => c.transition (.plain .disconnected)) :
      ∃ c', ((concludeProbe report).bind fun _ => rest).advanceThrough waits c = (c', .done none) ∧
        Concludes c c' report := by
    rw [ended, Task.bind_bind]
    obtain ⟨_, ran⟩ := exists_advanceThrough_clearToken waits c fun _ =>
      (Task.change fun c : Console => c.transition (.plain .disconnected)).bind fun _ => rest
    rw [ran, Task.advanceThrough_change_bind, ends]
    exact ⟨_, rfl, .ends report shut (by simp) (by simp)⟩
  rw [same]
  cases reply.report with
  | error e => exact shut _ (fun ⟨_, same, _⟩ => by cases same) rfl
  | ok r =>
    by_cases open_ : r.connected
    · rw [concludeProbe, if_pos open_, Task.advanceThrough_change_bind, ends]
      exact ⟨_, rfl, .connected r open_ (by simp) (by simp)⟩
    · refine shut _ (fun ⟨_, same, is⟩ => open_ (by cases same; exact is)) ?_
      rw [concludeProbe, if_neg open_]
      rfl

/-- What the reply to credentials makes of the console is made at once, before what is behind it;
nothing is made of it where it earns no token or the token cannot be stored. -/
theorem advanceThrough_granting (forgetting : Bool) (reply : Reply) :
    ((∃ e, (granting forgetting reply).advanceThrough waits c = (c, .done (some (.error e)))) ∧
      ∀ grant tokens, reply.grant = .ok grant → c.tokens.set grant.token ≠ .ok tokens) ∨
    ∃ grant c', reply.grant = .ok grant ∧
      (granting forgetting reply).advanceThrough waits c =
        (opened forgetting (.ok grant)).advanceThrough waits c' ∧
      c.tokens.set grant.token = .ok c'.tokens ∧
      c'.session = .connected (some grant.database) (some grant.engine) := by
  rw [granting]
  cases reply.grant with
  | error e => exact Or.inl ⟨⟨e, Task.advanceThrough_done waits c _⟩, nofun⟩
  | ok grant =>
    change ((∃ e, (Task.act _ _).advanceThrough waits c = _) ∧ _) ∨ ∃ grant' c', _ = _ ∧
      (Task.act _ _).advanceThrough waits c = _ ∧ _
    rw [Task.advanceThrough_act]
    dsimp only [Task.bind]
    cases stored : c.tokens.set grant.token with
    | error e =>
      refine Or.inl ⟨⟨e, Task.advanceThrough_done waits c _⟩, ?_⟩
      rintro _ tokens ⟨⟩
      rw [stored]
      nofun
    | ok tokens =>
      refine Or.inr ⟨grant, _, rfl, Task.advanceThrough_change_bind waits _ _ _, ?_, ?_⟩
      · rw [tokens_transition]
        exact stored
      · exact session_transition _ _

/-- The session is over at once, whatever the reply is. -/
theorem advanceThrough_closing (forgetting : Bool) (reply : Reply) :
    ∃ r c', (closing forgetting reply).advanceThrough waits c =
        (closed forgetting r).advanceThrough waits c' ∧
      (c'.tokens = c.tokens.cleared ∨ c'.tokens = c.tokens.cleared.cleared) ∧
      c'.session = .plain .disconnected := by
  have ended (c : Console) : ∃ r c', (clearToken.bind fun cleared =>
        (Task.change fun c : Console => c.transition (.plain .disconnected)).bind fun _ =>
          closed forgetting cleared).advanceThrough waits c =
        (closed forgetting r).advanceThrough waits c' ∧ c'.tokens = c.tokens.cleared ∧
      c'.session = .plain .disconnected := by
    obtain ⟨r, ran⟩ := exists_advanceThrough_clearToken waits c fun cleared =>
      (Task.change fun c : Console => c.transition (.plain .disconnected)).bind fun _ =>
        closed forgetting cleared
    rw [ran, Task.advanceThrough_change_bind]
    exact ⟨r, _, rfl, by simp, by simp⟩
  rw [closing]
  cases reply.read Json "POST /disconnect" with
  | error e =>
    obtain ⟨r, c', ran, tokens, session⟩ := ended c
    exact ⟨r, c', ran, Or.inl tokens, session⟩
  | ok _ =>
    obtain ⟨_, ran⟩ := exists_advanceThrough_clearToken waits c fun _ =>
      clearToken.bind fun cleared =>
        (Task.change fun c : Console => c.transition (.plain .disconnected)).bind fun _ =>
          closed forgetting cleared
    obtain ⟨r, c', ran', tokens, session⟩ := ended { c with tokens := c.tokens.cleared }
    exact ⟨r, c', ran.trans ran', Or.inr tokens, session⟩

end Console

end DbConsole

import DbConsole.Proofs.Console.Storing

/-!
How the tasks of the store behave. Operations read and mark but bring nothing to the cache; a fetch
brings only what the backend has answered to a request of its own; and a change marks what it has touched
before it succeeds, with nothing more to ask. Neither the work of the store nor the fetches behind it touch
the session or its token.
-/
set_option autoImplicit false

namespace DbConsole.Console

variable {α β : Type}

/-! ### Requests -/

/-- The task is one request, or fails without one. -/
def IsRequest (t : ConsoleTask (Except Error α)) : Prop :=
  (∃ question, ∃ answer : Reply → Except Error α,
    t = .call question fun reply => .done (answer reply)) ∨ ∃ e, t = .done (.error e)

namespace IsRequest

theorem send [Wire α] (method : Method) (endpoint : Endpoint) (body : Option Json) :
    IsRequest (Console.send α method endpoint body) :=
  Or.inl ⟨_, _, rfl⟩

theorem of_sends {t : ConsoleTask (Except Error α)} (sends : Sends t) : IsRequest t := by
  cases sends with
  | refused e => exact Or.inr ⟨e, rfl⟩
  | send method endpoint body => exact send _ _ _

theorem map {t : ConsoleTask (Except Error α)} (request : IsRequest t) (f : α → β) :
    IsRequest (t.bind fun r => .done (r.map f)) := by
  rcases request with ⟨question, answer, same⟩ | ⟨e, same⟩
  · exact Or.inl ⟨question, fun reply => (answer reply).map f, by rw [same]; rfl⟩
  · exact Or.inr ⟨e, by rw [same]; rfl⟩

theorem fetchPayload (key : Key) : IsRequest (Console.fetchPayload key) := by
  obtain ⟨_, _, wrap, sends, same⟩ := Sends.fetchPayload key
  rw [same]
  exact (of_sends sends).map wrap

/-- A request by itself changes nothing. -/
theorem within {changes : Console → Console → Prop} {t : ConsoleTask (Except Error α)}
    (request : IsRequest t) : t.Within changes := by
  rcases request with ⟨question, answer, same⟩ | ⟨e, same⟩ <;> rw [same]
  · exact fun _ => trivial
  · trivial

theorem within_attempts {changes : Console → Console → Prop}
    {t : ConsoleTask (Except Error Payload)} (request : IsRequest t) (delay left : Nat) :
    (Cache.attempts t delay left).Within changes := by
  induction left with
  | zero => exact request.within
  | succ left ih =>
    refine request.within.bind fun outcome => ?_
    cases outcome with
    | ok v => trivial
    | error e =>
      dsimp only
      split
      · exact ih
      · trivial

end IsRequest

/-! ### Operations -/

/-- The task does to the cache what events do that bring nothing. -/
def Civil : ConsoleTask α → Prop
  | .done _ => True
  | .act update next =>
    (∀ c, ∃ e : Cache.Event Payload Unit, e.lands = false ∧ (update c).cache = e.apply c.cache) ∧
      ∀ c, Civil (next c)
  | .wait _ next => Civil next
  | .call _ next => ∀ reply, Civil (next reply)
  | .sleep _ next => Civil next

namespace Civil

theorem bind {t : ConsoleTask α} {k : α → ConsoleTask β} (civil : Civil t)
    (rest : ∀ a, Civil (k a)) : Civil (t.bind k) := by
  induction t with
  | done a => exact rest a
  | act update next ih => exact ⟨civil.1, fun c => ih c (civil.2 c)⟩
  | wait ready next ih => exact ih civil
  | call question next ih => exact fun reply => ih reply (civil reply)
  | sleep time next ih => exact ih civil

/-- A task whose changes do to the cache what events do that bring nothing. -/
theorem of_within {changes : Console → Console → Prop} {t : ConsoleTask α}
    (within_ : t.Within changes) (quiet : ∀ c c', changes c c' →
      ∃ e : Cache.Event Payload Unit, e.lands = false ∧ c'.cache = e.apply c.cache) :
    Civil t := by
  induction t with
  | done a => trivial
  | act update next ih =>
    exact ⟨fun c => quiet c _ (within_.1 c), fun c => ih c (within_.2 c)⟩
  | wait ready next ih => exact ih within_
  | call question next ih => exact fun reply => ih reply (within_ reply)
  | sleep time next ih => exact ih within_

end Civil

theorem Stores.civil {t : ConsoleTask α} (stores : Stores t) : Civil t := by
  refine Civil.of_within stores ?_
  rintro c _ ⟨e, apart, w, _, rfl⟩
  exact ⟨e, apart, rfl⟩

/-- The work of the store reads and marks, and brings nothing. -/
theorem Civil.of_work {t : ConsoleTask α} (work : StoreWork t) : Civil t :=
  (Stores.of_work work).civil

/-! ### Changes -/

/-- The task asks nothing any more. -/
def Silent : ConsoleTask α → Prop
  | .done _ => True
  | .act _ next => ∀ c, Silent (next c)
  | .wait _ next => Silent next
  | .call _ _ => False
  | .sleep _ next => Silent next

/-- The task asks nothing any more and marks what the plan covers before it succeeds. -/
def Seals (plan : Plan) (ok : α → Prop) : ConsoleTask α → Prop
  | .done a => ¬ ok a
  | .act update next =>
    (∀ c, Seals plan ok (next c)) ∨
      ((∀ c, (update c).cache = c.cache.apply plan) ∧ ∀ c, ∃ a, next c = .done a)
  | .wait _ next => Seals plan ok next
  | .call _ _ => False
  | .sleep _ next => Seals plan ok next

/-- The task asks before it succeeds, and then only marks what the plan covers. -/
def Prepares (plan : Plan) (ok : α → Prop) : ConsoleTask α → Prop
  | .done a => ¬ ok a
  | .act _ next => ∀ c, Prepares plan ok (next c)
  | .wait _ next => Prepares plan ok next
  | .call _ next => ∀ reply, Seals plan ok (next reply)
  | .sleep _ next => Prepares plan ok next

/-- A result is a success. -/
def Succeeds (r : Except Error α) : Prop :=
  ∃ a, r = .ok a

/-- What an operation has returned is a success. -/
def Returns (r : Option (Except Error Returned)) : Prop :=
  ∃ returned, r = some (.ok returned)

variable {plan : Plan} {ok : α → Prop}

theorem Seals.silent {t : ConsoleTask α} (seals : Seals plan ok t) : Silent t := by
  induction t with
  | done a => trivial
  | act update next ih =>
    intro c
    rcases seals with further | ⟨_, ends⟩
    · exact ih c (further c)
    · obtain ⟨a, same⟩ := ends c
      rw [same]
      trivial
  | wait ready next ih => exact ih seals
  | call question next _ => exact seals
  | sleep time next ih => exact ih seals

theorem Seals.map {ok' : β → Prop} {t : ConsoleTask α} (seals : Seals plan ok t) (f : α → β)
    (implies : ∀ a, ok' (f a) → ok a) : Seals plan ok' (t.bind fun a => .done (f a)) := by
  induction t with
  | done a => exact fun succeeded => seals (implies a succeeded)
  | act update next ih =>
    rcases seals with further | ⟨marks, ends⟩
    · exact Or.inl fun c => ih c (further c)
    · refine Or.inr ⟨marks, fun c => ?_⟩
      obtain ⟨a, same⟩ := ends c
      exact ⟨f a, congrArg (fun t => t.bind fun a => .done (f a)) same⟩
  | wait ready next ih => exact ih seals
  | call question next _ => exact seals
  | sleep time next ih => exact ih seals

theorem Seals.concluding (outcome : Except Error α) :
    Seals plan Succeeds (Console.concluding plan outcome) := by
  cases outcome with
  | error e => exact fun ⟨a, same⟩ => by cases same
  | ok a => exact Or.inr ⟨fun _ => rfl, fun _ => ⟨_, rfl⟩⟩

namespace Prepares

theorem map {ok' : β → Prop} {t : ConsoleTask α} (prepares : Prepares plan ok t) (f : α → β)
    (implies : ∀ a, ok' (f a) → ok a) : Prepares plan ok' (t.bind fun a => .done (f a)) := by
  induction t with
  | done a => exact fun succeeded => prepares (implies a succeeded)
  | act update next ih => exact fun c => ih c (prepares c)
  | wait ready next ih => exact ih prepares
  | call question next _ => exact fun reply => (prepares reply).map f implies
  | sleep time next ih => exact ih prepares

theorem bind_of_silent {t : ConsoleTask β} {k : β → ConsoleTask α} (silent : Silent t)
    (rest : ∀ b, Prepares plan ok (k b)) : Prepares plan ok (t.bind k) := by
  induction t with
  | done b => exact rest b
  | act update next ih => exact fun c => ih c (silent c)
  | wait ready next ih => exact ih silent
  | call question next _ => exact silent.elim
  | sleep time next ih => exact ih silent

theorem concluding {t : ConsoleTask (Except Error α)} (request : IsRequest t) :
    Prepares plan Succeeds (t.bind (Console.concluding plan)) := by
  rcases request with ⟨question, answer, same⟩ | ⟨e, same⟩ <;> rw [same]
  · exact fun reply => Seals.concluding (answer reply)
  · exact fun ⟨a, same⟩ => by cases same

theorem failure (e : Error) :
    Prepares plan Succeeds (.done (.error e) : ConsoleTask (Except Error α)) :=
  fun ⟨a, same⟩ => by cases same

theorem returning {wrap : α → Returned} {t : ConsoleTask (Except Error α)}
    (prepares : Prepares plan Succeeds t) : Prepares plan Returns (Console.returning wrap t) := by
  refine prepares.map _ fun r ⟨returned, same⟩ => ?_
  cases r with
  | error e => cases same
  | ok a => exact ⟨a, rfl⟩

end Prepares

theorem Silent.bind {t : ConsoleTask β} {k : β → ConsoleTask α} (silent : Silent t)
    (rest : ∀ b, Silent (k b)) : Silent (t.bind k) := by
  induction t with
  | done b => exact rest b
  | act update next ih => exact fun c => ih c (silent c)
  | wait ready next ih => exact ih silent
  | call question next _ => exact silent
  | sleep time next ih => exact ih silent

theorem Silent.fetch (key : Key) (policy : FetchPolicy) (cast : Payload → Option α) :
    Silent (Cache.fetch key policy () cast : ConsoleTask (Except Error α)) := by
  refine Silent.bind (fun _ => trivial) fun reading => ?_
  cases reading with
  | served v => trivial
  | awaiting flight => exact fun _ => trivial

theorem Prepares.of_makes {key? : Option Key} {t : ConsoleTask (Except Error α)}
    (makes : Makes plan key? t) : Prepares plan Succeeds t := by
  induction makes with
  | refused key? e => exact failure e
  | sent key? sends => exact concluding (.of_sends sends)
  | read fails rest ih =>
    refine bind_of_silent (.fetch _ _ _) fun outcome => ?_
    cases outcome with
    | error e =>
      rw [fails]
      exact failure e
    | ok cs => exact ih cs

/-- Every change of the store marks what its plan covers before it succeeds. -/
theorem Change.orderly (change : Change) :
    Civil change.task ∧ Prepares change.plan Returns change.task := by
  obtain ⟨_, _, _, makes, same⟩ := change.makes
  refine ⟨.of_work (.change change), ?_⟩
  rw [same]
  exact (Prepares.of_makes makes).returning

theorem Operation.civil (operation : Operation) : Civil operation.task :=
  .of_work (.operate operation)

/-! ### What a fetch brings -/

/-- The reply, to a request for the key, gives the payload. -/
def Gives (key : Key) (request : Request) (reply : Reply) (payload : Payload) : Prop :=
  ∃ c question answer, fetchPayload key = .call question answer ∧ question c = request ∧
    answer reply = .done (.ok payload)

/-- The task of a fetch: it lets the fetch land with nothing but good payloads, where what it is
answered on the way becomes good. -/
def Flies (f : Flight Unit) (post : (Payload → Prop) → α → Prop) :
    ConsoleTask α → (Payload → Prop) → Prop
  | .done a, good => post good a
  | .act update next, good =>
    (∀ c, ∃ now outcome, (∀ v, outcome = .ok v → good v) ∧
      (update c).cache = c.cache.land now f outcome) ∧ ∀ c, Flies f post (next c) good
  | .wait _ next, good => Flies f post next good
  | .call question next, good => ∃ answer, fetchPayload f.key = .call question answer ∧
      ∀ reply, Flies f post (next reply) fun v => good v ∨ answer reply = .done (.ok v)
  | .sleep _ next, good => Flies f post next good

/-- Nothing is asked of what a task of a fetch comes to. -/
def whatever (_ : Payload → Prop) (_ : α) : Prop :=
  True

/-- A success is good. -/
def Good (good : Payload → Prop) (outcome : Except Error Payload) : Prop :=
  ∀ v, outcome = .ok v → good v

namespace Flies

variable {f : Flight Unit} {post : (Payload → Prop) → α → Prop} {good good' : Payload → Prop}

theorem mono (lasting : ∀ (good good' : Payload → Prop) a, (∀ v, good v → good' v) →
      post good a → post good' a) {t : ConsoleTask α} (flies : Flies f post t good)
    (weaker : ∀ v, good v → good' v) : Flies f post t good' := by
  induction t generalizing good good' with
  | done a => exact lasting good good' a weaker flies
  | act update next ih =>
    refine ⟨fun c => ?_, fun c => ih c (flies.2 c) weaker⟩
    obtain ⟨now, outcome, brings, same⟩ := flies.1 c
    exact ⟨now, outcome, fun v ok => weaker v (brings v ok), same⟩
  | wait ready next ih => exact ih flies weaker
  | call question next ih =>
    obtain ⟨answer, same, further⟩ := flies
    exact ⟨answer, same, fun reply => ih reply (further reply) fun v => Or.imp_left (weaker v)⟩
  | sleep time next ih => exact ih flies weaker

theorem bind {post' : (Payload → Prop) → β → Prop} {t : ConsoleTask α} {k : α → ConsoleTask β}
    (flies : Flies f post t good)
    (rest : ∀ good' a, (∀ v, good v → good' v) → post good' a → Flies f post' (k a) good') :
    Flies f post' (t.bind k) good := by
  induction t generalizing good with
  | done a => exact rest good a (fun _ => id) flies
  | act update next ih => exact ⟨flies.1, fun c => ih c (flies.2 c) rest⟩
  | wait ready next ih => exact ih flies rest
  | call question next ih =>
    obtain ⟨answer, same, further⟩ := flies
    refine ⟨answer, same, fun reply => ih reply (further reply) fun good' a weaker held => ?_⟩
    exact rest good' a (fun v ok => weaker v (Or.inl ok)) held
  | sleep time next ih => exact ih flies rest

theorem fetchPayload (f : Flight Unit) (good : Payload → Prop) :
    Flies f Good (Console.fetchPayload f.key) good := by
  rcases IsRequest.fetchPayload f.key with ⟨question, answer, same⟩ | ⟨e, same⟩
  · rw [same]
    refine ⟨_, same, fun reply v ok => Or.inr ?_⟩
    rw [ok]
  · rw [same]
    intro v ok
    cases ok

theorem attempts (f : Flight Unit) (delay left : Nat) (good : Payload → Prop) :
    Flies f Good (Cache.attempts (Console.fetchPayload f.key) delay left) good := by
  induction left generalizing good with
  | zero => exact fetchPayload f good
  | succ left ih =>
    refine (fetchPayload f good).bind fun good' outcome weaker held => ?_
    cases outcome with
    | ok v => exact held
    | error e =>
      dsimp only
      split
      · exact ih good'
      · intro v ok
        cases ok

theorem fly {R : Type} (settings : CacheSettings) (f : Flight Unit) (good : Payload → Prop) :
    Flies f whatever (flying settings f : ConsoleTask (Option R)) good := by
  have lands : Flies f whatever (Cache.fly settings f (Console.fetchPayload f.key)) good :=
    (attempts f settings.retryDelay settings.retries good).bind fun _ outcome _ held =>
      ⟨fun c => ⟨c.now, outcome, held, rfl⟩, fun _ => trivial⟩
  exact lands.bind fun _ _ _ _ => trivial

end Flies

/-! ### What else is left alone -/

/-- A fetch does nothing but to land. -/
theorem within_flying {R : Type} {changes : Console → Console → Prop} (settings : CacheSettings)
    (f : Flight Unit)
    (land : ∀ (c : Console) outcome, changes c { c with cache := c.cache.land c.now f outcome }) :
    (flying settings f : ConsoleTask (Option R)).Within changes := by
  refine Task.Within.bind ?_ fun _ => trivial
  refine Task.Within.bind ((IsRequest.fetchPayload f.key).within_attempts _ _) fun outcome => ?_
  exact ⟨fun c => land c outcome, fun _ => trivial⟩

/-- The task leaves the session and its token alone. -/
def Aloof (t : ConsoleTask α) : Prop :=
  t.Within fun c c' => c'.session = c.session ∧ c'.tokens = c.tokens

theorem Stores.aloof {t : ConsoleTask α} (stores : Stores t) : Aloof t := by
  refine stores.mono ?_
  rintro c _ ⟨_, _, _, _, rfl⟩
  exact ⟨rfl, rfl⟩

namespace Aloof

theorem of_work {t : ConsoleTask α} (work : StoreWork t) : Aloof t :=
  (Stores.of_work work).aloof

theorem fly {R : Type} (settings : CacheSettings) (f : Flight Unit) :
    Aloof (flying settings f : ConsoleTask (Option R)) :=
  within_flying settings f fun _ _ => ⟨rfl, rfl⟩

theorem forget : Aloof Console.forget :=
  ⟨fun _ => ⟨rfl, rfl⟩, fun _ => ⟨fun _ => ⟨rfl, rfl⟩, fun _ => trivial⟩⟩

theorem advanceThrough {t : ConsoleTask α} (aloof : Aloof t) (waits : Nat) (c : Console) :
    (t.advanceThrough waits c).1.session = c.session ∧
      (t.advanceThrough waits c).1.tokens = c.tokens ∧ Aloof (t.advanceThrough waits c).2 := by
  have ran := Task.Within.advanceThrough aloof (fun _ => ⟨rfl, rfl⟩)
    (fun _ _ _ first second => ⟨second.1.trans first.1, second.2.trans first.2⟩) waits c
  exact ⟨ran.1.1, ran.1.2, ran.2⟩

end Aloof

end DbConsole.Console

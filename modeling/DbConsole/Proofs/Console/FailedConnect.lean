import DbConsole.Proofs.Console.Life

/-!
Opening a session while nothing else is done: either nothing has changed, or all that belongs to the
session has.
-/
set_option autoImplicit false

namespace DbConsole.Console

/-- All that can be seen of the console is as it was, but for the time. -/
structure Unaltered (c c' : Console) : Prop where
  base : c'.base = c.base
  timeout : c'.timeout = c.timeout
  tokens : c'.tokens = c.tokens
  entries : c'.cache.entries = c.cache.entries
  session : c'.session = c.session
  published : c'.published = c.published
  workspace : c'.workspace = c.workspace

namespace Unaltered

variable {c c' c'' : Console}

theorem refl (c : Console) : Unaltered c c :=
  ⟨rfl, rfl, rfl, rfl, rfl, rfl, rfl⟩

theorem trans (first : Unaltered c c') (second : Unaltered c' c'') : Unaltered c c'' where
  base := second.base.trans first.base
  timeout := second.timeout.trans first.timeout
  tokens := second.tokens.trans first.tokens
  entries := second.entries.trans first.entries
  session := second.session.trans first.session
  published := second.published.trans first.published
  workspace := second.workspace.trans first.workspace

theorem withTokens (same : Unaltered c c') (tokens : TokenStore) :
    Unaltered { c with tokens := tokens } { c' with tokens := tokens } :=
  { same with tokens := rfl }

theorem transition (same : Unaltered c c') (next : Session) :
    Unaltered (c.transition next) (c'.transition next) := by
  unfold Console.transition
  rw [same.session, same.published]
  split
  · exact same
  · exact { same with session := rfl, published := rfl }

theorem clear (same : Unaltered c c') :
    Unaltered { c with cache := c.cache.clear } { c' with cache := c'.cache.clear } :=
  { same with entries := rfl }

theorem onWorkspace (same : Unaltered c c') (f : Workspace → Workspace) :
    Unaltered (c.onWorkspace f) (c'.onWorkspace f) :=
  { same with workspace := congrArg f same.workspace }

theorem connectRequest (same : Unaltered c c') (credentials : Credentials) :
    connectRequest credentials c' = connectRequest credentials c := by
  unfold Console.connectRequest Console.request
  rw [same.base, same.timeout, same.tokens]

end Unaltered

/-- The console with the token and the session that credentials have earned. -/
def granted (c : Console) (grant : Grant) (tokens : TokenStore) : Console :=
  { c with tokens := tokens }.transition (.connected (some grant.database) (some grant.engine))

def forgotten (c : Console) : Console :=
  { c with cache := c.cache.clear }.onWorkspace Workspace.reset

/-- From the console on, nothing has changed, or what the backend granted has been made of it. -/
def Concluded (credentials : Credentials) (c : Console)
    (made : Grant → TokenStore → Console) (heard : Set (Request × Reply)) (c' : Console) :
    Except Error Grant → Prop
  | .error _ => Unaltered c c'
  | .ok grant => ∃ reply tokens, (connectRequest credentials c, reply) ∈ heard ∧
      reply.grant = .ok grant ∧ c.tokens.set grant.token = .ok tokens ∧
      Unaltered (made grant tokens) c'

theorem Concluded.later {credentials : Credentials} {c c' c'' : Console}
    {made : Grant → TokenStore → Console} {heard heard' : Set (Request × Reply)}
    {result : Except Error Grant} (concluded : Concluded credentials c made heard c' result)
    (more : heard ⊆ heard') (same : Unaltered c' c'') :
    Concluded credentials c made heard' c'' result := by
  cases result with
  | error e => exact concluded.trans same
  | ok grant =>
    obtain ⟨reply, tokens, asked, read, stored, made⟩ := concluded
    exact ⟨reply, tokens, more asked, read, stored, made.trans same⟩

section Opening

variable (credentials : Credentials) {c c' : Console} (same : Unaltered c c')

include same

theorem assures_authenticate : (authenticate credentials).Assures Unaltered
    (Concluded credentials c fun _ tokens => { c with tokens := tokens }) ∅ c' := by
  rw [authenticate]
  cases credentials.validate with
  | error e => exact same
  | ok u =>
    intro sent reply sending behind received
    change Task.Assures _ _ (match reply.grant with
      | .error e => .done (.error e)
      | .ok grant => (setToken grant.token).bind fun stored => .done (stored.map fun _ => grant)) _ _
    have asked := same.trans sending
    have known := asked.trans received
    cases read : reply.grant with
    | error e => exact known
    | ok grant =>
      dsimp only [Task.bind, setToken, Task.turn, Task.Assures]
      rw [known.tokens]
      cases stored : c.tokens.set grant.token with
      | error e => exact known
      | ok tokens =>
        refine ⟨reply, tokens, Or.inl ?_, read, stored, known.withTokens tokens⟩
        exact congrArg (·, reply) (asked.connectRequest credentials).symm

theorem assures_openSession : (openSession credentials).Assures Unaltered
    (Concluded credentials c c.granted) ∅ c' := by
  refine (assures_authenticate credentials same).bind fun heard behind result concluded => ?_
  cases result with
  | error e => exact concluded
  | ok grant =>
    obtain ⟨reply, tokens, asked, read, stored, made⟩ := concluded
    exact ⟨reply, tokens, asked, read, stored, made.transition _⟩

theorem assures_connect : (connect credentials).Assures Unaltered
    (Concluded credentials c fun grant tokens => (c.granted grant tokens).forgotten) ∅ c' := by
  refine (assures_openSession credentials same).bind fun heard behind result concluded => ?_
  cases result with
  | error e => exact concluded
  | ok grant =>
    obtain ⟨reply, tokens, asked, read, stored, made⟩ := concluded
    intro later quiet _
    exact ⟨reply, tokens, asked, read, stored, (made.trans quiet).clear.onWorkspace _⟩

end Opening

/-- What is left when a session has been opened: it is the one that was granted, its token is stored,
and nothing is cached or selected. -/
structure Opened (c c' : Console) (grant : Grant) : Prop where
  session : c'.session = .connected (some grant.database) (some grant.engine)
  stored : c.tokens.set grant.token = .ok c'.tokens
  kept : ∀ token?, c.tokens = .memory token? → c'.tokens = .memory (some grant.token)
  entries : c'.cache.entries = []
  workspace : c'.workspace = c.workspace.reset
  none_selected : c'.workspace.table = none ∧ c'.workspace.selected = []

theorem Opened.of_unaltered {c c' : Console} {grant : Grant} {tokens : TokenStore}
    (stored : c.tokens.set grant.token = .ok tokens)
    (same : Unaltered (c.granted grant tokens).forgotten c') : Opened c c' grant := by
  have tokens_eq : c'.tokens = tokens := same.tokens.trans (tokens_transition _ _)
  have workspace : c'.workspace = c.workspace.reset := by
    rw [same.workspace]
    unfold forgotten granted onWorkspace transition
    split <;> rfl
  refine ⟨same.session.trans (session_transition _ _), tokens_eq ▸ stored, ?_, same.entries,
    workspace, ?_⟩
  · intro token? memory
    rw [memory] at stored
    cases stored
    exact tokens_eq
  · rw [workspace]
    exact ⟨rfl, rfl⟩

namespace Life

variable {E : Type} {r : Life E} {begun n : Nat} {credentials : Credentials}
  {result : Except Error Grant}

theorem unaltered_of_still {m : Nat} (still : (r.does m).isStill = true)
    (quiet : ∀ name t, ¬ r.Runs m name t) : Unaltered (r.console m) (r.console (m + 1)) := by
  obtain ⟨now, same⟩ := console_succ_of_still still quiet
  rw [same]
  exact ⟨rfl, rfl, rfl, rfl, rfl, rfl, rfl⟩

/-- When a session has been opened and nothing else has been done meanwhile, a failure has left all
as it was and shown nothing to observers. On success the session is the one that the backend has
granted in the meantime, its token is stored, and what was cached and selected is forgotten. -/
theorem unaltered_or_opened (r : Life E)
    (begins : r.does begun = .begin (.connect true credentials))
    (alone : r.Only [begun.repr] begun n)
    (returned : r.returned? begun n = some (.grant result)) :
    (∀ e, result = .error e → Unaltered (r.console begun) (r.console n)) ∧
      ∀ grant, result = .ok grant → Opened (r.console begun) (r.console n) grant ∧
        ∃ sent reply, begun ≤ sent ∧ sent < n ∧ reply.grant = .ok grant ∧
          r.exchange? sent = some (connectRequest credentials (r.console begun), reply) := by
  have relies : r.history.Relies Unaltered
      (fun _ heard c' outcome => ∃ result, outcome = some (.grant result) ∧
        Concluded credentials (r.console begun)
          (fun grant tokens => ((r.console begun).granted grant tokens).forgotten) heard c' result)
      begun n (Action.connect true credentials).whole :=
    { begins := happens_of_begin begins
      refl := .refl
      trans _ _ _ := .trans
      taken _ := ⟨rfl, rfl, rfl, rfl, rfl, rfl, rfl⟩
      lasting _ _ _ _ _ more := fun ⟨result, same, concluded⟩ =>
        ⟨result, same, concluded.later more (.refl _)⟩
      relied m behind before none := by
        obtain ⟨still, mine⟩ := alone m (Nat.le_of_lt behind) before
        exact unaltered_of_still still fun name t runs =>
          none t (List.mem_singleton.mp (mine name t runs) ▸ runs)
      assures opened _ same := by
        have first : r.history.state (begun + 1) = r.console begun := console_succ_of_begin begins
        rw [first] at same
        exact (assures_connect credentials same).bind fun heard c' result concluded =>
          ⟨result, rfl, concluded⟩ }
  obtain ⟨opened, closed, s, behind, le, before, _, _, ⟨_, same, concluded⟩, relied⟩ :=
    relies.exists_ends returned
  cases same
  have concluded := concluded.later subset_rfl relied
  constructor
  · rintro e rfl
    exact concluded
  · rintro grant rfl
    obtain ⟨reply, tokens, ⟨sent, since, early, asked⟩, read, stored, made⟩ := concluded
    exact ⟨.of_unaltered stored made, sent, reply, Nat.le_trans (Nat.le_of_lt behind) since,
      Nat.lt_trans early before, read, asked⟩

/-- From an open session, with a table selected and the tables cached, another one is opened. -/
def reconnecting (reply : Reply) : Life Unit where
  submit := gatedBackend reply reply
  start :=
    { tokenConsole ⟨some "users", [⟨"1"⟩], .table, Workspace.firstPage, 4⟩ with
      session := .connected (some "a.db") (some .sqlite)
      cache :=
        ⟨⟨1000, 1000, 0, 0⟩, [(.tables, ⟨some (.tables []), some 0, false, 0, none, none, 0⟩)],
          2, [], []⟩ }
  world := ()
  does
    | 0 => .begin (.connect true (.file "b.db"))
    | 1 => .visit 0 0
    | 2 => .visit 0 1
    | _ => .tidy

/-- The backend refuses the credentials. -/
def refusing : Reply :=
  .answered ⟨401⟩ (some "\x7b\"success\":false,\"error\":\"denied\"\x7d")

theorem reconnecting_unaltered : (reconnecting refusing).Only [(0 : Nat).repr] 0 3 ∧
    (∃ e, (reconnecting refusing).returned? 0 3 = some (.grant (.error e))) ∧
    Unaltered ((reconnecting refusing).console 0) ((reconnecting refusing).console 3) := by
  have alone : (reconnecting refusing).Only [(0 : Nat).repr] 0 3 :=
    only_of_all (by decide +kernel)
  have failed : (((reconnecting refusing).returned? 0 3).bind Outcome.grant?).any
      (·.toOption.isNone) := by decide +kernel
  obtain ⟨e, refused⟩ := exists_error_of_any failed
  obtain ⟨outcome, returned, grants⟩ := Option.bind_eq_some_iff.mp refused
  rw [Outcome.eq_grant grants] at returned
  exact ⟨alone, ⟨e, returned⟩, (unaltered_or_opened _ rfl alone returned).1 e rfl⟩

end Life

end DbConsole.Console

import DbConsole.Proofs.Console.Portable

/-!
Lives of two consoles that differ in where they keep the token: in a new file, and for the run of the
program. As long as no empty token is granted, all that is done with them and asked of the backend is the
same.
-/
set_option autoImplicit false

namespace DbConsole

/-! ### Pools whose state is seen through a function -/

namespace Pool

variable {σ E Q A R : Type} {sys : System σ E Q A R} {p : Pool σ E Q A R} {g : σ → σ}

def through (g : σ → σ) (p : Pool σ E Q A R) : Pool σ E Q A R :=
  { p with state := g p.state }

theorem proceed_through
    (commutes : ∀ s, sys.started (g s) = ((sys.started s).1, g (sys.started s).2)) (s : σ) :
    (p.through g).proceed sys (g s) = (p.proceed sys s).through g := by
  simp only [proceed, through, commutes]

theorem suspend_through {t : Task σ Q A (Option R)}
    (asks : ∀ question next, t = .call question next → ∀ s, question (g s) = question s) :
    (p.through g).suspend sys t = ((p.suspend sys t).1.through g, (p.suspend sys t).2) ∧
      (p.through g).exchange? sys t = p.exchange? sys t := by
  cases t with
  | call question next =>
    have same := asks question next rfl p.state
    simp only [suspend, exchange?, through, same]
    exact ⟨rfl, trivial⟩
  | _ => exact ⟨rfl, rfl⟩

/-- A visit does and asks the same if its task gets equally far and asks the same. -/
theorem visit_through
    (commutes : ∀ s, sys.started (g s) = ((sys.started s).1, g (sys.started s).2))
    {place waits : Nat} {name : String} {t : Task σ Q A (Option R)}
    (found : p.threads[place]? = some (name, .ready t))
    (same : t.advanceThrough waits (g p.state) =
      (g (t.advanceThrough waits p.state).1, (t.advanceThrough waits p.state).2))
    (asks : ∀ question next, (t.advanceThrough waits p.state).2 = .call question next →
      ∀ s, question (g s) = question s) :
    (p.through g).visit sys place waits = (p.visit sys place waits).through g ∧
      (p.through g).asked? sys place waits = p.asked? sys place waits := by
  have found' : (p.through g).threads[place]? = some (name, .ready t) := found
  have same' : t.advanceThrough waits (p.through g).state = _ := same
  rw [visit_of_ready found, visit_of_ready found', asked?_of_ready found, asked?_of_ready found',
    same', proceed_through commutes]
  rw [(suspend_through asks).1, (suspend_through asks).2]
  exact ⟨rfl, rfl⟩

end Pool

namespace Console

variable {E R : Type}

theorem started_inMemory (submit : E → Request → E × Answer Reply) (c : Console) :
    (systemBefore submit R).started c.inMemory =
      (((systemBefore submit R).started c).1, ((systemBefore submit R).started c).2.inMemory) := rfl

theorem tokens_started (submit : E → Request → E × Answer Reply) (c : Console) :
    ((systemBefore submit R).started c).2.tokens = c.tokens := rfl

/-- A visit to a portable task is the same before the same backend. -/
theorem visit_inMemory {submit : E → Request → E × Answer Reply}
    {p : Pool Console E Request Reply R} (portable : p.AllLeft fun _ t => Portable t)
    (faithful : p.state.tokens.Faithful) (place waits : Nat) :
    (p.through inMemory).visit (systemBefore submit R) place waits =
        (p.visit (systemBefore submit R) place waits).through inMemory ∧
      (p.through inMemory).asked? (systemBefore submit R) place waits =
        p.asked? (systemBefore submit R) place waits ∧
      (p.visit (systemBefore submit R) place waits).state.tokens.Faithful := by
  by_cases ready : ∃ name t, p.threads[place]? = some (name, .ready t)
  · obtain ⟨name, t, found⟩ := ready
    have held : Portable t := portable name _ (List.mem_of_getElem? found)
    obtain ⟨same, faithful', left⟩ := held.advanceThrough waits faithful
    obtain ⟨visits, asks⟩ := Pool.visit_through (started_inMemory submit) found same
      fun question next rest => by
        rw [rest] at left
        exact left.1
    refine ⟨visits, asks, ?_⟩
    rw [Pool.state_visit found, tokens_started]
    exact faithful'
  · have none (name : String) (t : ConsoleTask (Option R)) :
        p.threads[place]? ≠ some (name, .ready t) := fun found => ready ⟨name, t, found⟩
    have none' (name : String) (t : ConsoleTask (Option R)) :
        (p.through inMemory).threads[place]? ≠ some (name, .ready t) := none name t
    obtain ⟨stays, unasked⟩ := Pool.visit_of_not_ready none
    obtain ⟨stays', unasked'⟩ := Pool.visit_of_not_ready none'
    rw [stays, unasked, stays', unasked']
    exact ⟨rfl, rfl, faithful⟩

namespace Life

variable {r : Life E} {n : Nat}

/-- The same done to a console that keeps its token for the run of the program. -/
def inMemory (r : Life E) : Life E :=
  { r with start := r.start.inMemory }

/-- The token is kept faithfully, nothing but calls is done to its store, and none of them nor any reply
brings an empty token. -/
structure Plain (r : Life E) : Prop where
  faithful : r.start.tokens.Faithful
  called : ∀ n f, r.does n = .tokens f →
    ∃ c : TokenStore.Call, c ≠ .set "" ∧ f = fun s => (s.call c).1
  earns : ∀ n request reply, r.exchange? n = some (request, reply) → Earns request reply

theorem allLeft_portable (plain : r.Plain) (faithful : (r.console n).tokens.Faithful)
    (portable : (r.history.pool n).AllLeft fun _ t => Portable t) :
    (r.history.pool (n + 1)).AllLeft fun _ t => Portable t := by
  refine History.allLeft_succ portable (fun _ _ => id) (fun t begins => ?_) ?_ fun c t among => ?_
  · obtain ⟨action, -, rfl⟩ := exists_action_of_begin begins
    exact Portable.whole action
  · intro place waits name t _ _ held
    refine .of_holds (held.advanceThrough waits faithful).2.2 (fun question next reply held heard => ?_)
      fun _ _ => id
    exact held.2 _ reply (plain.earns n _ reply heard)
  · obtain ⟨f, _, settings, rfl⟩ := exists_flying_of_started among
    exact Portable.fly settings f

/-- What is done next finds the other console as it leaves this one. -/
theorem pool_inMemory_succ (plain : r.Plain) (faithful : (r.console n).tokens.Faithful)
    (portable : (r.history.pool n).AllLeft fun _ t => Portable t)
    (same : r.inMemory.history.pool n = (r.history.pool n).through Console.inMemory) :
    r.inMemory.history.pool (n + 1) = (r.history.pool (n + 1)).through Console.inMemory ∧
      (r.console (n + 1)).tokens.Faithful := by
  have next : r.inMemory.history.pool (n + 1) =
      (r.does n).event.apply (systemBefore r.submit Outcome) n
        ((r.history.pool n).through Console.inMemory) := by
    rw [← same]
    rfl
  have next' : r.history.pool (n + 1) =
    (r.does n).event.apply (systemBefore r.submit Outcome) n (r.history.pool n) := rfl
  rw [console, History.state, next, next']
  cases does : r.does n with
  | visit place waits =>
    obtain ⟨visits, -, faithful'⟩ := visit_inMemory portable faithful place waits
    exact ⟨visits, faithful'⟩
  | tokens f =>
    obtain ⟨c, full, rfl⟩ := plain.called n f does
    have memory := TokenStore.Faithful.call_memory_get? faithful full
    refine ⟨?_, faithful.call c⟩
    exact congrArg (fun tokens => { r.history.pool n with
      state := { (r.history.pool n).state with tokens := tokens } }) memory
  | _ => exact ⟨rfl, faithful⟩

/-- The other console stays this one with its token kept for the run of the program. -/
theorem pool_inMemory (plain : r.Plain) (n : Nat) :
    r.inMemory.history.pool n = (r.history.pool n).through Console.inMemory ∧
      (r.console n).tokens.Faithful ∧ (r.history.pool n).AllLeft fun _ t => Portable t := by
  -- The tasks do the same only with a faithful store, and leave it faithful only if they are portable.
  induction n with
  | zero => exact ⟨rfl, plain.faithful, .init _ _⟩
  | succ n ih =>
    obtain ⟨same, faithful, portable⟩ := ih
    obtain ⟨same', faithful'⟩ := pool_inMemory_succ plain faithful portable same
    exact ⟨same', faithful', allLeft_portable plain faithful portable⟩

theorem exchange?_inMemory (plain : r.Plain) (n : Nat) :
    r.inMemory.exchange? n = r.exchange? n := by
  obtain ⟨same, faithful, portable⟩ := pool_inMemory plain n
  have happens : r.inMemory.history.happens n = r.history.happens n := rfl
  rw [exchange?, exchange?, History.exchange?, History.exchange?, happens, same]
  cases r.history.happens n with
  | visit place waits => exact (visit_inMemory portable faithful place waits).2.1
  | _ => rfl

/-- A store in a new file that obeys whatever it is told is as good as one for the run of the program,
but for empty tokens. Both reply alike to calls just if nobody looks at a token that has been set to the
empty text; and unless the backend grants an empty token or one is set by itself, the life of the console
is the same with either: its session and all else that it holds, the token that it has, what it asks the
backend and is answered, and what its actions come to. -/
theorem stores_interchangeable {disk : Disk} {path : FilePath}
    (fresh : disk.node? path.parts = none) :
    (∀ calls, (TokenStore.document disk path).Succeeds calls →
      ((TokenStore.document disk path).replies calls = (TokenStore.memory none).replies calls ↔
        ¬ TokenStore.LooksAtEmpty none calls)) ∧
    ∀ r : Life E, r.start.tokens = .document disk path → r.start.tokens.Obeys →
      (∀ n f, r.does n = .tokens f →
        ∃ c : TokenStore.Call, c ≠ .set "" ∧ f = fun s => (s.call c).1) →
      (∀ n request reply, r.exchange? n = some (request, reply) → Earns request reply) →
      let other : Life E := { r with start := { r.start with tokens := .memory none } }
      ∀ n, other.console n = (r.console n).inMemory ∧ other.exchange? n = r.exchange? n ∧
        (other.history.pool n).world = (r.history.pool n).world ∧
        ∀ begun, other.returned? begun n = r.returned? begun n := by
  have empty := TokenStore.members_of_fresh fresh
  have sound : TokenDocument.Sound (TokenStore.members disk path) := empty ▸ .empty
  constructor
  · intro calls succeeds
    exact TokenStore.replies_eq_iff calls sound (by rw [empty]; rfl) succeeds
  · intro r kept obeys called earns other n
    have plain : r.Plain := ⟨⟨⟨disk, path, kept, sound⟩, obeys⟩, called, earns⟩
    have none_ : r.start.tokens.get? = none := by
      rw [kept, TokenStore.get?, empty]
      rfl
    have same : other = r.inMemory := by
      rw [inMemory, Console.inMemory, none_]
    obtain ⟨pool, -, -⟩ := pool_inMemory plain n
    rw [same, console, History.state, exchange?_inMemory plain, pool]
    refine ⟨rfl, rfl, rfl, fun begun => ?_⟩
    rw [returned?, History.result?, pool]
    rfl

/-- With the store, a session is opened before a backend that grants the token, and is then looked into;
meanwhile the store is told to forget the token. -/
def granted (tokens : TokenStore) (token : String) : Life Unit where
  submit := gatedBackend (agreeing "\x7b\"connected\":true\x7d")
    (agreeing ("\x7b\"token\":\"" ++ token ++ "\",\"database\":\"a.db\",\"db_type\":\"sqlite\"\x7d"))
  start := { tokenConsole .initial with tokens := tokens }
  world := ()
  does
    | 0 => .begin (.connect true (.file "a.db"))
    | 1 => .visit 0 0
    | 2 => .visit 0 1
    | 3 => .begin .checkStatus
    | 4 => .visit 1 1
    | 5 => .tokens fun s => (s.call .clear).1
    | _ => .tidy

/-- A store in a new file of the working directory. -/
def newFile : TokenStore :=
  .document .empty ⟨["session.json"], false⟩

theorem granted_interchangeable :
    newFile.replies [.set "a", .get, .clear, .get] =
      (TokenStore.memory none).replies [.set "a", .get, .clear, .get] ∧
    (granted newFile "new").start.tokens.Obeys ∧
    ((granted newFile "new").exchange? 4).isSome ∧
    ∀ n, (granted (.memory none) "new").console n = ((granted newFile "new").console n).inMemory ∧
      (granted (.memory none) "new").exchange? n = (granted newFile "new").exchange? n := by
  have fresh : Disk.empty.node? ["session.json"] = none := rfl
  have writable : TokenStore.Writable .empty "session.json" := .inl fresh
  have obeys : newFile.Obeys := writable.obeys
  have called : ∀ n f, (granted newFile "new").does n = .tokens f →
      ∃ c : TokenStore.Call, c ≠ .set "" ∧ f = fun s => (s.call c).1 := by
    intro n f does
    match n with
    | 5 =>
      cases does
      exact ⟨.clear, nofun, rfl⟩
    | 0 | 1 | 2 | 3 | 4 | _ + 6 => cases does
  have early : ∀ n ∈ List.range 6, ((granted newFile "new").exchange? n).all fun heard =>
      heard.2.grant.toOption.all (·.token != "") := by
    decide +kernel
  have earns : ∀ n request reply, (granted newFile "new").exchange? n = some (request, reply) →
      Earns request reply := by
    intro n request reply heard _ grant read
    by_cases before : n < 6
    · have full := early n (List.mem_range.mpr before)
      rw [heard, Option.all_some, read] at full
      exact bne_iff_ne.mp full
    · obtain ⟨later, rfl⟩ := Nat.exists_eq_add_of_le (Nat.le_of_not_lt before)
      rw [Nat.add_comm] at heard
      cases heard
  obtain ⟨replies, lives⟩ := @stores_interchangeable Unit .empty ⟨["session.json"], false⟩ fresh
  refine ⟨(replies _ (obeys _)).mpr (by decide), obeys, by decide +kernel, fun n => ?_⟩
  · obtain ⟨consoles, exchanges, -⟩ := lives _ rfl obeys called earns n
    exact ⟨consoles, exchanges⟩

/-- An empty token is none to the store in a file alone: it is read back as none, and a session for which
the backend granted it is found closed without a question. -/
theorem empty_tells_stores_apart :
    newFile.Succeeds [.set "", .get] ∧
    newFile.replies [.set "", .get] ≠ (TokenStore.memory none).replies [.set "", .get] ∧
    ((granted newFile "").console 5).session.status = .disconnected ∧
    ((granted newFile "").exchange? 4).isNone ∧
    ((granted (.memory none) "").console 5).session.status = .connected ∧
    ((granted (.memory none) "").exchange? 4).isSome := by
  have writable : TokenStore.Writable .empty "session.json" := .inl rfl
  exact ⟨writable.obeys _, by decide +kernel, by decide +kernel, by decide +kernel, by decide +kernel,
    by decide +kernel⟩

end Life

end Console

end DbConsole

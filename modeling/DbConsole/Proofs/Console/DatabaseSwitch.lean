import DbConsole.Proofs.Console.Clearing
import DbConsole.Proofs.Console.SessionStep

/-!
What reads return when another database has been opened. Where nothing of a key can be served or
joined, a read of the key that begins there or later returns what is answered to a request behind that
point, whatever is done with the console meanwhile. What opens or closes a session forgets what was
cached in the one before, so nothing of it is returned any more. A check of the session that finds
another database open forgets nothing: what could be served before it can be served behind it.
-/
set_option autoImplicit false

namespace DbConsole

/-- The task has come to its end. -/
def Thread.hasEnded {σ Q A R : Type} : Thread σ Q A R → Bool
  | .ended _ => true
  | _ => false

namespace Console

/-! ### Reads behind a point at which nothing can be served or joined -/

/-- What changes by itself brings nothing to the cache. -/
theorem Happening.event_of_drift {E : Type} (happening : Happening E) {f : Console → Console}
    (drifts : happening.event = .drift f) (c : Console) :
    ∃ e : Cache.Event Payload Unit, e.lands = false ∧ (f c).cache = e.apply c.cache := by
  cases happening <;> cases drifts
  case collect.refl now => exact ⟨.collect now, rfl, rfl⟩
  all_goals exact ⟨.leave 0, rfl, rfl⟩

namespace Course

variable {E : Type} (r : Course E)

section Promises

variable {key : Key} {least : Nat} {good : Set (Request × Reply) → Payload → Prop}
  {heeds : Heeds key good} {reader : Option String} {named : reader ≠ some ""}
  {post : Set (Flight Unit) → Set (Request × Reply) → Option (Except Error Returned) → Prop}
  {lasting : Task.Lasting post}

/-- A promise outlasts whatever happens, if the reader keeps to it. -/
theorem kept_succ {n : Nat} {g : Set (Flight Unit)} {heard : Set (Request × Reply)}
    (kept : (promising r.submit heeds least reader named post lasting).Kept g heard (r.pool n))
    (reads : ∀ action, r.happens n = .begin action → reader = some n.repr →
      ∀ g heard, action.task.Meets (Promised key least good) post g heard) :
    ∃ g', g ≤ g' ∧ (promising r.submit heeds least reader named post lasting).Kept g'
      (heard ∪ {x | r.exchange? n = some x}) (r.pool (n + 1)) := by
  rw [← history_pool] at kept ⊢
  rw [← history_exchange?]
  refine promising_succ kept (fun t begins => ?_)
    fun f drifts => (r.happens n).event_of_drift drifts _
  obtain ⟨action, happens, rfl⟩ := exists_action_of_begin begins
  exact ⟨action.civil, reads action happens⟩

end Promises

theorem kept_baseline (key : Key) (n : Nat) :
    ∃ g heard, (baseline r.submit key).Kept g heard (r.pool n) := by
  have start : (baseline r.submit key).Kept ∅ ∅ (r.pool 0) :=
    ⟨.of_none (.empty _) rfl rfl, .init _ _⟩
  obtain ⟨g, kept⟩ := start.onwards (Nat.zero_le n) fun k g heard _ kept => r.kept_succ kept nofun
  exact ⟨g, _, kept⟩

/-- What a read returns was answered to a request that was sent since the point before the read at
which nothing of the key could be served or joined. -/
theorem exists_fetched_since {key : Key} {read : Read} {since reader m : Nat} {returned : Returned}
    (forgotten : Forgotten key (r.console since).cache) (le : since ≤ reader)
    (begins : r.happens reader = .begin (.operate (.read read))) (reads : read.Reads key)
    (answered : r.returned? reader m = some (.ok returned)) :
    ∃ v, read.Shows key v returned ∧ ∃ sent request reply, since ≤ sent ∧ sent < m ∧
      r.exchange? sent = some (request, reply) ∧ Gives key request reply v := by
  obtain ⟨g, heard, kept⟩ := r.kept_baseline key since
  have unnamed : (r.pool since).AllLeft fun name _ => name ≠ reader.repr :=
    history_pool (r := r) since ▸ History.absent le
  have assured := assured_of_forgotten read kept forgotten unnamed
  have reached : since ≤ m := le.trans (Nat.le_of_lt (lt_of_returned? answered))
  obtain ⟨g', assured'⟩ := assured.onwards reached fun k g heard _ kept =>
    r.kept_succ kept fun action starts mine => by
      cases Nat.repr_injective (Option.some.inj mine)
      rw [begins] at starts
      cases starts
      exact meets_read (heeds_answered key) read reads
  obtain ⟨v, shows, x, ⟨sent, behind, before, asked⟩, gives⟩ :=
    exists_answered_of_kept assured' answered
  exact ⟨v, shows, sent, x.1, x.2, behind, before, asked, gives⟩

end Course

/-! ### Switches -/

/-- What opens or closes a session forgets what was cached in the one before. -/
def Action.forgets : Action → Bool
  | .connect forgetting _ => forgetting
  | .disconnect forgetting => forgetting
  | _ => true

namespace Course

variable {E : Type} (r : Course E)

/-- Nothing that was begun goes on. -/
def Idle (n : Nat) : Prop :=
  ∀ q ∈ (r.pool n).threads, q.1 ≠ "" → q.2.hasEnded = true

instance (n : Nat) : Decidable (r.Idle n) :=
  inferInstanceAs (Decidable (∀ q ∈ (r.pool n).threads, q.1 ≠ "" → q.2.hasEnded = true))

/-- Each action is begun when those before it have come to their ends. -/
def Sequential : Prop :=
  ∀ n action, r.happens n = .begin action → r.Idle n

/-- Sessions are opened and closed so that what was cached in them is forgotten. -/
def Forgetful : Prop :=
  ∀ n action, r.happens n = .begin action → action.forgets = true

/-- Another database is opened than the one that was open last. -/
def Switches (n : Nat) : Prop :=
  (r.console (n + 1)).session.isConnected = true ∧ ∃ m ≤ n,
    (r.console m).session.isConnected = true ∧
    (∀ k, m < k → k ≤ n → (r.console k).session.isConnected = false) ∧
    ((r.console m).session.database, (r.console m).session.engine) ≠
      ((r.console (n + 1)).session.database, (r.console (n + 1)).session.engine)

/-- A check of the session has found the database there, and up to the other point no session is
closed and none is opened by credentials. -/
def FoundAndKept (n m : Nat) : Prop :=
  (∃ begun token reply, r.Lands begun n token reply) ∧ ∀ k, n < k → k < m →
    r.happens k ≠ .begin (.disconnect true) ∧ ∀ begun grant, ¬ r.Grants begun k true grant

variable {r} {n m : Nat}

/-! ### What is yet to clear the cache -/

variable (r) in
/-- Something that was begun is yet to clear the cache, or nothing that was cached is left. -/
def Clearing (n : Nat) : Prop :=
  (r.pool n).SomeLeft Clears ∨ ∀ key, Forgotten key (r.console n).cache

/-- What is yet to clear the cache does so in its turn. -/
theorem clearing_succ (clears : (r.pool n).SomeLeft Clears) : r.Clearing (n + 1) := by
  by_cases forgotten : ∀ key, Forgotten key (r.console (n + 1)).cache
  · exact Or.inr forgotten
  · refine Or.inl ?_
    rw [pool_succ]
    cases happens : r.happens n with
    | begin action => exact clears.spawn _ _
    | visit place waits =>
      refine clears.visit (fun name t found left => ?_) (fun _ _ reply left => left reply)
        fun _ _ left => left
      refine (left.advanceThrough waits (r.console n)).resolve_right fun cleared => ?_
      refine forgotten fun key => ?_
      rw [console_succ happens found]
      exact cleared key
    | release gate => exact clears.release gate
    | wake time => exact clears.wake time
    | tidy => exact clears.tidy
    | collect now => exact clears
    | select change => exact clears
    | elapse now => exact clears
    | outside change => exact clears

/-- What is yet to clear the cache has not come to its end. -/
theorem Idle.not_someLeft (idle : r.Idle n) : ¬ (r.pool n).SomeLeft Clears := by
  rintro ⟨name, th, named, member, left⟩
  have ended : th.hasEnded = true := idle _ member named
  cases th with
  | ended outcome => exact left
  | _ => cases ended

/-- When nothing goes on any more, the cache has been cleared. -/
theorem Clearing.exists_forgotten (clearing : r.Clearing n) (le : n ≤ m) (idle : r.Idle m) :
    ∃ s, n ≤ s ∧ s ≤ m ∧ ∀ key, Forgotten key (r.console s).cache := by
  have reached : (r.pool m).SomeLeft Clears ∨
      ∃ s, n ≤ s ∧ s ≤ m ∧ ∀ key, Forgotten key (r.console s).cache := by
    clear idle
    induction m, le using Nat.le_induction with
    | base => exact clearing.imp id fun forgotten => ⟨n, le_rfl, le_rfl, forgotten⟩
    | succ m le ih =>
      rcases ih with clears | ⟨s, behind, before, forgotten⟩
      · exact (clearing_succ clears).imp id fun forgotten =>
          ⟨m + 1, Nat.le_succ_of_le le, le_rfl, forgotten⟩
      · exact Or.inr ⟨s, behind, Nat.le_succ_of_le before, forgotten⟩
  exact reached.resolve_left idle.not_someLeft

/-- A session is opened: what was cached is about to be forgotten. -/
theorem Grants.clearing {begun : Nat} {grant : Grant} (grants : r.Grants begun n true grant) :
    r.Clearing (n + 1) := by
  obtain ⟨credentials, c, reply, _, _, granted, place, waits, happens, found⟩ := grants.granted
  rcases advanceThrough_granting waits (r.console n) true reply with
    ⟨_, none⟩ | ⟨grant', c', _, ran, _, _⟩
  · exact absurd grants.stored (none grant _ granted)
  · have after := console_succ happens found
    rw [ran] at after
    rcases (Clears.opened grant').advanceThrough waits c' with left | cleared
    · refine Or.inl ?_
      rw [pool_succ, happens]
      refine .visited found Nat.repr_ne_empty ?_ (fun _ _ reply left => left reply)
        fun _ _ left => left
      change Clears (Task.advanceThrough _ waits (r.console n)).2
      rw [ran]
      exact left
    · refine Or.inr fun key => ?_
      rw [after]
      exact cleared key

theorem clearing_of_disconnect (begins : r.happens n = .begin (.disconnect true)) :
    r.Clearing (n + 1) := by
  refine Or.inl ?_
  rw [pool_succ, begins]
  exact .spawned Nat.repr_ne_empty Clears.disconnect

/-! ### Reads behind a switch -/

/-- Only a check of the session and credentials open another database. -/
theorem Switches.cases (switches : r.Switches n) :
    (∃ begun token reply, r.Lands begun n token reply) ∨
      ∃ begun forgetting grant, r.Grants begun n forgetting grant := by
  obtain ⟨connected, m, le, before, last, apart⟩ := switches
  cases opening connected with
  | kept same _ =>
    -- The session was open there already, so it is the one that was open last.
    rcases Nat.lt_or_eq_of_le le with earlier | rfl
    · rw [same] at connected
      cases connected.symm.trans (last n earlier le_rfl)
    · rw [same] at apart
      exact absurd rfl apart
  | found begun token reply _ lands => exact Or.inl ⟨begun, token, reply, lands⟩
  | granted begun forgetting grant grants _ => exact Or.inr ⟨begun, forgetting, grant, grants⟩

theorem Grants.forgetting_eq (forgetful : r.Forgetful) {begun : Nat} {forgetting : Bool}
    {grant : Grant} (grants : r.Grants begun n forgetting grant) : forgetting = true := by
  obtain ⟨credentials, _, _, begins, _⟩ := grants.granted
  exact forgetful begun _ begins

/-- When nothing goes on any more behind a switch, the cache has been cleared since, unless it was a
check of the session that found the database and nothing has been opened or closed. -/
theorem Switches.exists_forgotten (switches : r.Switches n) (forgetful : r.Forgetful) (lt : n < m)
    (idle : r.Idle m) :
    (∃ s, n < s ∧ s ≤ m ∧ ∀ key, Forgotten key (r.console s).cache) ∨ r.FoundAndKept n m := by
  have cleared {k : Nat} (le : n ≤ k) (before : k < m) (clearing : r.Clearing (k + 1)) :
      ∃ s, n < s ∧ s ≤ m ∧ ∀ key, Forgotten key (r.console s).cache := by
    obtain ⟨s, behind, le', forgotten⟩ := clearing.exists_forgotten before idle
    exact ⟨s, by omega, le', forgotten⟩
  rcases switches.cases with lands | ⟨begun, forgetting, grant, grants⟩
  · by_cases kept : r.FoundAndKept n m
    · exact Or.inr kept
    · refine Or.inl ?_
      by_contra none
      refine kept ⟨lands, fun k behind before => ⟨fun begins => ?_, fun begun grant grants => ?_⟩⟩
      · exact none (cleared (Nat.le_of_lt behind) before (clearing_of_disconnect begins))
      · exact none (cleared (Nat.le_of_lt behind) before grants.clearing)
  · cases grants.forgetting_eq forgetful
    exact Or.inl (cleared le_rfl lt grants.clearing)

/-- A check of the session leaves all that can be served. -/
theorem Lands.trusted?_eq {begun : Nat} {token : String} {reply : Reply}
    (lands : r.Lands begun n token reply) (key : Key) :
    (r.console (n + 1)).cache.trusted? key = (r.console n).cache.trusted? key := by
  obtain ⟨place, waits, happens, found⟩ := lands.runs
  have kept := (Spares.landing reply).advanceThrough waits (r.console n)
  rw [console_succ happens found, ← kept]
  rfl

/-- A read that is begun when another database has been opened and nothing goes on returns what was
answered to a request behind the switch, unless a check of the session has found the database and
nothing has been opened or closed since. What can be served when a check takes in the reply can be
served behind it, whatever database it has found. -/
theorem fetched_behind_switch_unless_found (forgetful : r.Forgetful) :
    (∀ n reader m read key returned, r.Switches n → n < reader → r.Idle reader →
      r.happens reader = .begin (.operate (.read read)) → read.Reads key →
      r.returned? reader m = some (.ok returned) →
      ∃ v, read.Shows key v returned ∧ ∃ sent request reply, sent < m ∧
        r.exchange? sent = some (request, reply) ∧ Gives key request reply v ∧
        (n < sent ∨ r.FoundAndKept n reader)) ∧
    ∀ begun n token reply, r.Lands begun n token reply → ∀ key,
      (r.console (n + 1)).cache.trusted? key = (r.console n).cache.trusted? key := by
  refine ⟨?_, fun begun n token reply lands => lands.trusted?_eq⟩
  intro n reader m read key returned switches behind idle begins reads answered
  rcases switches.exists_forgotten forgetful behind idle with ⟨s, later, le, forgotten⟩ | kept
  · obtain ⟨v, shows, sent, request, reply, since, before, asked, gives⟩ :=
      r.exists_fetched_since (forgotten key) le begins reads answered
    exact ⟨v, shows, sent, request, reply, before, asked, gives,
      Or.inl (Nat.lt_of_lt_of_le later since)⟩
  · have empty : Forgotten key (r.console 0).cache := ⟨rfl, rfl⟩
    obtain ⟨v, shows, sent, request, reply, _, before, asked, gives⟩ :=
      r.exists_fetched_since empty (Nat.zero_le reader) begins reads answered
    exact ⟨v, shows, sent, request, reply, before, asked, gives, Or.inr kept⟩

/-! ### A switch by credentials, and one that a check finds -/

/-- A backend that has one database open, whose one table has the name of the database. -/
def namingBackend (database : String) (request : Request) : String × Answer Reply :=
  let name := "\"" ++ database ++ "\""
  let data := match request.url.path with
    | .segments ["status"] => "\x7b\"connected\":true,\"database\":" ++ name ++ "\x7d"
    | .segments ["connect"] =>
      "\x7b\"token\":\"t\",\"database\":" ++ name ++ ",\"db_type\":\"sqlite\"\x7d"
    | _ => "\x7b\"tables\":[\x7b\"name\":" ++ name ++ ",\"table_type\":\"table\"\x7d]\x7d"
  (database, .now (.answered ⟨200⟩ (some ("\x7b\"success\":true,\"data\":" ++ data ++ "\x7d"))))

/-- The tables of one database are read, then the backend has another one open, which shows in the
action; and the tables are read again. -/
def switched (action : Action) : Course String where
  submit := namingBackend
  base := ⟨"http", "", none, some (.named "db"), none, .segments [], none, none⟩
  timeout := none
  tokens := .memory (some "t")
  settings := ⟨1000, 1000, 0, 0⟩
  world := "old.db"
  happens
    | 0 => .begin .checkStatus
    | 1 => .visit 0 1
    | 2 => .visit 0 0
    | 3 => .begin (.operate (.read (.one .tables .cached)))
    | 4 => .visit 1 1
    | 5 => .visit 2 0
    | 6 => .visit 2 1
    | 7 => .visit 1 1
    | 8 => .outside fun _ => "new.db"
    | 9 => .begin action
    | 10 => .visit 3 1
    | 11 => .visit 3 1
    | 12 => .begin (.operate (.read (.one .tables .cached)))
    | 13 => .visit 4 1
    | 14 => .visit 5 0
    | 15 => .visit 5 1
    | 16 => .visit 4 1
    | _ => .tidy

theorem begins_switched {action begun : Action} {n : Nat}
    (begins : (switched action).happens n = .begin begun) :
    n ∈ [0, 3, 9, 12] ∧ (begun = action ∨ begun.forgets = true) := by
  match n with
  | 0 | 3 | 12 => cases begins; exact ⟨by decide, Or.inr rfl⟩
  | 9 => cases begins; exact ⟨by decide, Or.inl rfl⟩
  | 1 | 2 | 4 | 5 | 6 | 7 | 8 | 10 | 11 | 13 | 14 | 15 | 16 | n + 17 => cases begins

theorem sequential_switched {action : Action}
    (idle : ∀ n ∈ [0, 3, 9, 12], (switched action).Idle n) : (switched action).Sequential :=
  fun n _ begins => idle n (begins_switched begins).1

theorem forgetful_switched {action : Action} (forgets : action.forgets = true) :
    (switched action).Forgetful := by
  intro n begun begins
  rcases (begins_switched begins).2 with rfl | forgotten
  · exact forgets
  · exact forgotten

/-- The names of the tables that a read has returned. -/
def tableNames? : Option (Except Error Returned) → Option (List String)
  | some (.ok (.payload (.tables ts))) => some (ts.map (·.name))
  | _ => none

theorem exists_tables_of_tableNames? {outcome : Option (Except Error Returned)}
    {names : List String} (same : tableNames? outcome = some names) :
    ∃ ts, outcome = some (.ok (.payload (.tables ts))) ∧ ts.map (·.name) = names := by
  unfold tableNames? at same
  split at same
  · exact ⟨_, rfl, Option.some.inj same⟩
  · cases same

/-- Credentials open the other database, and its tables are listed. -/
theorem switched_by_credentials_lists_new :
    (switched (.connect true (.file "new.db"))).Sequential ∧
      (switched (.connect true (.file "new.db"))).Forgetful ∧
      (switched (.connect true (.file "new.db"))).Switches 11 ∧
      ∃ ts v, (switched (.connect true (.file "new.db"))).returned? 12 17 =
          some (.ok (.payload (.tables ts))) ∧ ts.map (·.name) = ["new.db"] ∧
        (Read.one .tables .cached).Shows .tables v (.payload (.tables ts)) ∧
        ∃ sent request reply, 11 < sent ∧ sent < 17 ∧
          (switched (.connect true (.file "new.db"))).exchange? sent = some (request, reply) ∧
          Gives .tables request reply v := by
  have sequential : (switched (.connect true (.file "new.db"))).Sequential :=
    sequential_switched (by decide +kernel)
  have forgetful : (switched (.connect true (.file "new.db"))).Forgetful :=
    forgetful_switched rfl
  have switches : (switched (.connect true (.file "new.db"))).Switches 11 :=
    ⟨by decide +kernel, 11, le_rfl, by decide +kernel, by omega, by decide +kernel⟩
  have listed : tableNames? ((switched (.connect true (.file "new.db"))).returned? 12 17) =
      some ["new.db"] := by decide +kernel
  obtain ⟨ts, answered, names⟩ := exists_tables_of_tableNames? listed
  obtain ⟨v, shows, sent, request, reply, before, asked, gives, behind | found⟩ :=
    (fetched_behind_switch_unless_found forgetful).1 11 12 17 (.one .tables .cached) .tables _
      switches (by decide) (sequential 12 _ rfl) rfl rfl answered
  · exact ⟨sequential, forgetful, switches, ts, v, answered, names, shows, sent, request, reply,
      behind, before, asked, gives⟩
  · obtain ⟨begun, token, reply, lands⟩ := found.1
    have visited : ((switched (.connect true (.file "new.db"))).pool 11).threads[3]?.map Prod.fst =
        some (Nat.repr 9) := by decide +kernel
    obtain ⟨place, waits, happens, there⟩ := lands.runs
    cases happens
    rw [there] at visited
    cases Nat.repr_injective (Option.some.inj visited)
    rcases lands.probes with starts | checks
    · cases starts
    · cases checks

/-- A check finds the other database, and the tables of the one before are listed. -/
theorem switched_by_check_lists_old :
    (switched .checkStatus).Sequential ∧ (switched .checkStatus).Forgetful ∧
      (switched .checkStatus).Switches 11 ∧
      ((switched .checkStatus).console 12).session = .connected (some "new.db") none ∧
      (switched .checkStatus).happens 12 = .begin (.operate (.read (.one .tables .cached))) ∧
      (∃ ts, (switched .checkStatus).returned? 12 14 = some (.ok (.payload (.tables ts))) ∧
        ts.map (·.name) = ["old.db"]) ∧
      ∀ sent, 11 < sent → sent < 14 → (switched .checkStatus).exchange? sent = none := by
  have listed : tableNames? ((switched .checkStatus).returned? 12 14) = some ["old.db"] := by
    decide +kernel
  refine ⟨sequential_switched (by decide +kernel), forgetful_switched rfl,
    ⟨by decide +kernel, 11, le_rfl, by decide +kernel, by omega, by decide +kernel⟩,
    by decide +kernel, rfl, exists_tables_of_tableNames? listed, ?_⟩
  intro sent behind before
  obtain rfl | rfl : sent = 12 ∨ sent = 13 := by omega
  · rfl
  · have silent : ((switched .checkStatus).exchange? 13).isNone = true := by decide +kernel
    exact Option.isNone_iff_eq_none.mp silent

end Course

end Console

end DbConsole

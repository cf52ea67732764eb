import DbConsole.Proofs.Cache.Kinds
import DbConsole.Proofs.Console.StaleViews
import DbConsole.Proofs.Console.TypedOutcomes

/-!
Cached values are of the kind that their keys are read as. The cache does not tell the kinds of its values
apart; it is the reads that let only such fetches depart as bring what they read. So nobody who reads
through the console is ever told that a cached value is of another kind.
-/
set_option autoImplicit false

namespace DbConsole

variable {α β : Type}

/-- The payload is of the kind that reads of the key take it for. -/
def Payload.isOf (v : Payload) : Key → Bool
  | .tables => v.tables?.isSome
  | .databaseInfo => v.database?.isSome
  | .columns _ => v.columns?.isSome
  | .indexes _ => v.indexes?.isSome
  | .foreignKeys _ => v.foreignKeys?.isSome
  | .rows _ _ => v.page?.isSome

namespace Console

/-! ### Tasks that keep the cache of the right kinds -/

/-- What a fetch of the key may land with. -/
def Proper (key : Key) : Except Error Payload → Prop
  | .ok v => v.isOf key = true
  | .error e => e.isMistyped = false

/-- The cache has payloads of the right kinds. -/
def OfKinds (g : Set (Flight Unit)) (_ : Set (Request × Reply)) (c : Console) : Prop :=
  c.cache.Kinded Proper g

/-- The task keeps the payloads of the right kinds, whatever else does too, and what it comes to is
right. -/
def Clean (right : α → Prop) (t : ConsoleTask α) : Prop :=
  ∀ g heard, t.Meets OfKinds (fun _ _ a => right a) g heard

namespace Clean

variable {right : α → Prop} {right' : β → Prop}

theorem done {a : α} (held : right a) : Clean right (.done a) :=
  fun _ _ => held

theorem bind {t : ConsoleTask α} {k : α → ConsoleTask β} (clean : Clean right t)
    (rest : ∀ a, right a → Clean right' (k a)) : Clean right' (t.bind k) :=
  fun g heard => (clean g heard).bind fun g' heard' a _ _ held => rest a held g' heard'

/-- Work that brings nothing to the cache. -/
theorem of_civil {t : ConsoleTask α} (civil : Civil t) : Clean (fun _ => True) t := by
  intro g heard
  induction t generalizing g heard with
  | done a => trivial
  | act update next ih =>
    intro g' heard' c _ _ kinded
    obtain ⟨e, quiet, same⟩ := civil.1 c
    obtain ⟨g'', more, kinded'⟩ := kinded.event e quiet
    refine ⟨g'', more, ?_, ih c (civil.2 c) g'' heard'⟩
    rw [OfKinds, same]
    exact kinded'
  | wait ready next ih => exact ih civil g heard
  | call question next ih => exact fun g' heard' c reply _ _ _ => ih reply (civil reply) g' _
  | sleep time next ih => exact ih civil g heard

theorem of_work {t : ConsoleTask α} (work : StoreWork t) : Clean (fun _ => True) t :=
  of_civil (.of_work work)

/-- Work that a success is followed by, where a failure is the end. -/
theorem followed {t : ConsoleTask (Except Error α)} {k : Except Error α → ConsoleTask (Except Error β)}
    (clean : Clean Typed t) (fails : ∀ e, k (.error e) = .done (.error e))
    (rest : ∀ a, Clean Typed (k (.ok a))) : Clean Typed (t.bind k) := by
  refine clean.bind fun outcome typed => ?_
  cases outcome with
  | ok a => exact rest a
  | error e =>
    rw [fails]
    exact done (.error (typed e rfl))

/-- A check whose failure is the end. -/
theorem checked {outcome : Except Error Unit} {t : ConsoleTask (Except Error α)} (typed : Typed outcome)
    (clean : Clean Typed t) :
    Clean Typed (match outcome with
      | .error e => .done (.error e)
      | .ok () => t) := by
  cases outcome with
  | ok u => exact clean
  | error e => exact done (.error (typed e rfl))

/-! ### Requests -/

theorem send [Wire α] (method : Method) (endpoint : Endpoint) (body : Option Json) :
    Clean Typed (Console.send α method endpoint body) :=
  fun _ _ _ _ _ reply _ _ _ => Reply.typed_read _ reply

theorem typed_tableEndpoint (start : List String) (table : String) : Typed (tableEndpoint start table) :=
  (typed_requireText _ _).bind fun _ => .ok _

/-- A request to an endpoint that there may not be. -/
theorem sent {endpoint : Except Error Endpoint} {k : Endpoint → ConsoleTask (Except Error α)}
    (typed : Typed endpoint) (clean : ∀ e, Clean Typed (k e)) :
    Clean Typed (match endpoint with
      | .ok e => k e
      | .error e => .done (.error e)) := by
  cases endpoint with
  | ok e => exact clean e
  | error e => exact done (.error (typed e rfl))

theorem get [Wire α] {endpoint : Except Error Endpoint} (typed : Typed endpoint) :
    Clean Typed (Console.get α endpoint) :=
  sent typed fun _ => send _ _ _

theorem deliver [Wire α] [Wire β] (method : Method) {endpoint : Except Error Endpoint}
    (typed : Typed endpoint) (message : β) : Clean Typed (Console.deliver α method endpoint message) :=
  sent typed fun _ => send _ _ _

theorem deleteAt [Wire α] {endpoint : Except Error Endpoint} (typed : Typed endpoint) :
    Clean Typed (Console.deleteAt α endpoint) :=
  sent typed fun _ => send _ _ _

/-! ### Fetches -/

theorem fetchPage (table : String) (query : PageQuery) : Clean Typed (Console.fetchPage table query) :=
  checked (typed_of_query query) (get ((typed_tableEndpoint _ _).map _))

/-- What the backend has under a key is of its kind. -/
theorem fetchPayload (key : Key) : Clean (Proper key) (Console.fetchPayload key) := by
  have wrapped {γ : Type} {t : ConsoleTask (Except Error γ)} {wrap : γ → Payload} (clean : Clean Typed t)
      (kind : ∀ a, (wrap a).isOf key = true) :
      Clean (Proper key) (t.bind fun r => .done (r.map wrap)) := by
    refine clean.bind fun outcome typed => done ?_
    cases outcome with
    | ok a => exact kind a
    | error e => exact typed e rfl
  cases key with
  | tables => exact wrapped (send _ _ _) fun _ => rfl
  | databaseInfo => exact wrapped (send _ _ _) fun _ => rfl
  | columns table => exact wrapped (get (typed_tableEndpoint _ _)) fun _ => rfl
  | indexes table => exact wrapped (get ((typed_tableEndpoint _ _).map _)) fun _ => rfl
  | foreignKeys table => exact wrapped (get ((typed_tableEndpoint _ _).map _)) fun _ => rfl
  | rows table query => exact wrapped (fetchPage table query) fun _ => rfl

theorem attempts (key : Key) (delay left : Nat) :
    Clean (Proper key) (Cache.attempts (Console.fetchPayload key) delay left) := by
  induction left with
  | zero => exact fetchPayload key
  | succ left ih =>
    refine (fetchPayload key).bind fun outcome proper => ?_
    cases outcome with
    | ok v => exact done proper
    | error e =>
      dsimp only
      split
      · exact fun g heard => ih g heard
      · exact done proper

/-- A fetch that has been started lands with what is proper for its key. -/
theorem meets_flying {R : Type} {post : Set (Flight Unit) → Set (Request × Reply) → Option R → Prop}
    {g : Set (Flight Unit)} {f : Flight Unit} (mem : f ∈ g) (settings : CacheSettings)
    (heard : Set (Request × Reply)) (ends : ∀ g heard, post g heard none) :
    (flying settings f : ConsoleTask (Option R)).Meets OfKinds post g heard := by
  have lands : (Cache.fly settings f (Console.fetchPayload f.key)).Meets OfKinds (fun _ _ _ => True) g
      heard := by
    refine (attempts f.key settings.retryDelay settings.retries g heard).bind ?_
    intro g' heard' outcome more _ proper g'' heard'' c more' _ kinded
    exact ⟨g'', le_rfl, kinded.land c.now (more' (more mem)) proper, trivial⟩
  exact lands.bind fun g' heard' _ _ _ _ => ends g' heard'

/-! ### Reads -/

section Reads

variable {key : Key} {cast : Payload → Option α}

theorem typed_ofKind (casts : ∀ v : Payload, v.isOf key = true → (cast v).isSome = true) {v : Payload}
    (kind : v.isOf key = true) : Typed (Cache.ofKind key cast v) := by
  obtain ⟨a, same⟩ := Option.isSome_iff_exists.mp (casts v kind)
  rw [Cache.ofKind, same]
  exact .ok a

theorem typed_outcome? (casts : ∀ v : Payload, v.isOf key = true → (cast v).isSome = true)
    {g : Set (Flight Unit)} {heard : Set (Request × Reply)} {c : Console} (kinded : OfKinds g heard c)
    {reading : Reading Payload} (due : Cache.Due Proper g key reading) {outcome : Except Error α}
    (come : Cache.outcome? key cast reading c = some outcome) : Typed outcome := by
  cases reading with
  | served v =>
    cases come
    exact typed_ofKind casts due
  | awaiting id =>
    obtain ⟨f, mem, rfl, rfl⟩ := due
    obtain ⟨brought, landed, rfl⟩ := Option.map_eq_some_iff.mp come
    have proper : Proper f.key brought := kinded.fits_of_landing? mem landed
    cases brought with
    | ok v => exact typed_ofKind casts proper
    | error e => exact .error proper

theorem meets_startRead (key : Key) (policy : FetchPolicy) (g : Set (Flight Unit))
    (heard : Set (Request × Reply)) :
    (Cache.startRead key policy () : ConsoleTask (Reading Payload)).Meets OfKinds
      (fun g _ reading => Cache.Due Proper g key reading) g heard := by
  intro g' heard' c _ _ kinded
  obtain ⟨g'', more, kinded'⟩ := kinded.event (.read c.now key policy ()) rfl
  exact ⟨g'', more, kinded', kinded.due_read kinded'⟩

theorem typed_getD {come : Option (Except Error α)} (typed : ∀ outcome, come = some outcome → Typed outcome) :
    Typed (come.getD (.error (.transport (.other "")))) := by
  cases come with
  | none => exact .error rfl
  | some outcome => exact typed outcome rfl

theorem fetch (policy : FetchPolicy)
    (casts : ∀ v : Payload, v.isOf key = true → (cast v).isSome = true) :
    Clean Typed (Cache.fetch key policy () cast : ConsoleTask (Except Error α)) := by
  refine fun g heard => (meets_startRead key policy g heard).bind fun g' heard' reading _ _ due => ?_
  cases reading with
  | served v => exact typed_ofKind casts due
  | awaiting id =>
    refine .until? fun g'' heard'' c more _ kinded => typed_getD fun outcome come => ?_
    exact typed_outcome? casts kinded (due.mono more) come

theorem typed_both? {x : Option (Except Error α)} {y : Option (Except Error β)}
    (first : ∀ outcome, x = some outcome → Typed outcome)
    (second : ∀ outcome, y = some outcome → Typed outcome) :
    ∀ outcome, Cache.both? x y = some outcome → Typed outcome := by
  intro outcome come
  unfold Cache.both? at come
  split at come <;> cases come
  · exact .error (first _ rfl _ rfl)
  · exact .error (second _ rfl _ rfl)
  · exact .ok _

theorem columns (table : String) (policy : FetchPolicy) : Clean Typed (Console.columns table policy) :=
  fetch policy fun _ => id

theorem tableSchema (table : String) (policy : FetchPolicy) :
    Clean Typed (Console.tableSchema table policy) := by
  intro g heard
  refine (meets_startRead _ policy g heard).bind fun g₁ heard₁ columns _ _ first => ?_
  refine (meets_startRead _ policy g₁ heard₁).bind fun g₂ heard₂ indexes more _ second => ?_
  refine (meets_startRead _ policy g₂ heard₂).bind fun g₃ heard₃ foreignKeys more' _ third => ?_
  refine .until? fun g' heard' c more'' _ kinded => typed_getD ?_
  refine typed_both? (fun _ => ?_) (typed_both? (fun _ => ?_) fun _ => ?_)
  · exact typed_outcome? (fun _ => id) kinded (first.mono (more.trans (more'.trans more'')))
  · exact typed_outcome? (fun _ => id) kinded (second.mono (more'.trans more''))
  · exact typed_outcome? (fun _ => id) kinded (third.mono more'')

theorem rows (table : String) (query : PageQuery) (policy : FetchPolicy) :
    Clean Typed (Console.rows table query policy) :=
  checked (typed_of_query query) (fetch policy fun _ => id)

theorem rowIdFor (table : String) (row : Row) : Clean Typed (Console.rowIdFor table row) :=
  (columns table .cached).followed (fun _ => rfl) fun cs => done (typed_rowId table row cs)

theorem keyedColumns (table : String) : Clean Typed (Console.keyedColumns table) := by
  refine (columns table .cached).followed (fun _ => rfl) fun cs => ?_
  dsimp only
  split
  · exact done (.error rfl)
  · exact done (.ok cs)

theorem selectedRows (policy : FetchPolicy) : Clean Typed (Console.selectedRows policy) := by
  refine (of_work (.look fun _ _ => rfl)).bind fun ticket _ => ?_
  cases ticket.table with
  | none => exact done (.ok _)
  | some table =>
    refine (rows table ticket.query policy).followed (fun _ => rfl) fun page => ?_
    refine (of_work (.look fun _ _ => rfl)).bind fun current _ => ?_
    split <;> exact done (.ok _)

end Reads

/-! ### Changes -/

theorem following {t : ConsoleTask (Except Error α)} {follow : ConsoleTask Unit} (clean : Clean Typed t)
    (follows : StoreWork follow) : Clean Typed (t.bind (following follow)) :=
  clean.followed (fun _ => rfl) fun a => (of_work follows).bind fun _ _ => done (.ok a)

theorem concluding (plan : Plan) {t : ConsoleTask (Except Error α)} (clean : Clean Typed t) :
    Clean Typed (t.bind (Console.concluding plan)) := by
  rw [concluding_eq]
  exact clean.following (.applyPlan plan)

theorem storeAlterTable (table : String) (change : Alteration) (confirmed : Bool) :
    Clean Typed (Console.storeAlterTable table change confirmed) := by
  unfold Console.storeAlterTable
  split
  · exact done (.error rfl)
  · exact concluding _ (checked (typed_of_alteration change) (deliver _ (typed_tableEndpoint _ _) _))

theorem storeDropTable (table : String) (confirmed : Bool) :
    Clean Typed (Console.storeDropTable table confirmed) := by
  unfold Console.storeDropTable
  split
  · exact concluding _ (deleteAt (typed_tableEndpoint _ _))
  · exact done (.error rfl)

theorem storeExecuteSql (request : SqlRequest) (engine : Option Engine) (confirmed : Bool) :
    Clean Typed (Console.storeExecuteSql request engine confirmed) := by
  refine checked (typed_of_sql request) ?_
  split
  · exact done (.error rfl)
  · exact concluding _ (checked (typed_of_sql request) (send _ _ _))

theorem insertRow (table : String) (row : Row) : Clean Typed (Console.insertRow table row) :=
  (columns table .cached).followed (fun _ => rfl) fun cs =>
    checked (typed_of_row row cs .insert) (concluding _ (deliver _ (typed_tableEndpoint _ _) _))

theorem updateRow (table : String) (id : RowId) (row : Row) :
    Clean Typed (Console.updateRow table id row) :=
  (keyedColumns table).followed (fun _ => rfl) fun cs =>
    checked (typed_of_row row cs .update) (concluding _ (deliver _ ((typed_tableEndpoint _ _).map _) _))

theorem deleteRow (table : String) (id : RowId) (confirmed : Bool) :
    Clean Typed (Console.deleteRow table id confirmed) := by
  unfold Console.deleteRow
  split
  · exact (keyedColumns table).followed (fun _ => rfl) fun _ =>
      concluding _ (deleteAt ((typed_tableEndpoint _ _).map _))
  · exact done (.error rfl)

theorem dropTable (table : String) (confirmed : Bool) :
    Clean Typed (Console.dropTable table confirmed) := by
  rw [dropTable_eq]
  exact (storeDropTable table confirmed).following (.select fun w => .tableDropped w table)

theorem alterTable (table : String) (change : Alteration) (confirmed : Bool) :
    Clean Typed (Console.alterTable table change confirmed) := by
  rw [alterTable_eq]
  exact (storeAlterTable table change confirmed).following (.followAlteration table change)

theorem executeSql (request : SqlRequest) (confirmed : Bool) :
    Clean Typed (Console.executeSql request confirmed) := by
  rw [executeSql_eq]
  exact (of_work (.look fun _ _ => rfl)).bind fun engine _ =>
    (storeExecuteSql request engine confirmed).following (.followSql request engine)

/-! ### The session -/

theorem of_tends {t : ConsoleTask α} (tends : Tends true t) : Clean (fun _ => True) t :=
  of_civil (Civil.composes.tends tends)

theorem forget : Clean (fun _ => True) Console.forget :=
  of_civil Civil.composes.forget

/-- A turn that touches only the store of the token. -/
theorem setToken (token : String) : Clean Typed (Console.setToken token) := by
  intro g heard g' heard' c _ _ kinded
  refine ⟨g', le_rfl, ?_⟩
  dsimp only
  cases stored : c.tokens.set token with
  | ok tokens => exact ⟨kinded, .ok ()⟩
  | error e => exact ⟨kinded, .error (c.tokens.typed_set token e stored)⟩

theorem clearToken : Clean Typed Console.clearToken := by
  intro g heard g' heard' c _ _ kinded
  refine ⟨g', le_rfl, ?_⟩
  dsimp only
  cases cleared : c.tokens.clear with
  | ok tokens => exact ⟨kinded, .ok ()⟩
  | error e => exact ⟨kinded, .error (c.tokens.typed_clear e cleared)⟩

theorem openSession (credentials : Credentials) : Clean Typed (Console.openSession credentials) := by
  have authenticated : Clean Typed (Console.authenticate credentials) := by
    refine checked (typed_of_credentials credentials) ?_
    refine (send _ _ _).followed (fun _ => rfl) fun grant => ?_
    exact (setToken grant.token).bind fun stored typed => done (typed.map _)
  refine authenticated.bind fun granted typed => ?_
  cases granted with
  | ok grant => exact (of_tends (.connected _ _)).bind fun _ _ => done typed
  | error e => exact done typed

theorem closeSession : Clean Typed Console.closeSession :=
  (of_tends .signOff).bind fun _ _ => clearToken.bind fun _ typed =>
    (of_tends .disconnected).bind fun _ _ => done typed

theorem connect (credentials : Credentials) : Clean Typed (Console.connect credentials) :=
  (openSession credentials).followed (fun _ => rfl) fun grant => forget.bind fun _ _ => done (.ok grant)

theorem disconnect : Clean Typed Console.disconnect :=
  closeSession.bind fun _ typed => forget.bind fun _ _ => done typed

/-! ### Actions -/

theorem returning {wrap : α → Returned} {t : ConsoleTask (Except Error α)} (clean : Clean Typed t) :
    Clean (fun r => ∀ outcome, r = some outcome → Typed outcome) (Console.returning wrap t) := by
  refine clean.bind fun outcome typed => done ?_
  rintro _ ⟨⟩
  exact typed.map wrap

theorem operation (operation : Operation) :
    Clean (fun r => ∀ outcome, r = some outcome → Typed outcome) operation.task := by
  cases operation with
  | read read =>
    cases read with
    | one key policy =>
      cases key with
      | rows table query => exact returning (rows table query policy)
      | _ => exact returning (fetch policy fun _ => id)
    | tableSchema table policy => exact returning (tableSchema table policy)
    | rowId table row => exact returning (rowIdFor table row)
  | change change =>
    cases change with
    | createTable spec =>
      exact returning (concluding _ (checked (typed_of_spec spec) (send _ _ _)))
    | alterTable table change confirmed => exact returning (storeAlterTable table change confirmed)
    | dropTable table confirmed => exact returning (storeDropTable table confirmed)
    | insertRow table row => exact returning (insertRow table row)
    | updateRow table id row => exact returning (updateRow table id row)
    | deleteRow table id confirmed => exact returning (deleteRow table id confirmed)
    | executeSql request engine confirmed => exact returning (storeExecuteSql request engine confirmed)

end Clean

/-- The failure that an action comes to. -/
def Outcome.error? : Outcome → Option Error
  | .session _ => none
  | .grant (.error e) => some e
  | .closing (.error e) => some e
  | .rows (.error e) => some e
  | .store (.error e) => some e
  | _ => none

/-- What the action comes to does not say that a value is of another kind. -/
def RightOutcome (r : Option Outcome) : Prop :=
  ∀ outcome e, r = some outcome → outcome.error? = some e → e.isMistyped = false

theorem Clean.whole (action : Action) : Clean RightOutcome action.whole := by
  have telling {α : Type} {wrap : Except Error α → Outcome} {t : ConsoleTask (Except Error α)}
      (wraps : ∀ r e, (wrap r).error? = some e → r = .error e) (clean : Clean Typed t) :
      Clean RightOutcome (telling wrap t) := by
    refine clean.bind fun r typed => .done ?_
    rintro _ e ⟨⟩ failed
    exact typed e (wraps r e failed)
  have looking {wrap : Session → Outcome} {t : ConsoleTask Session} (tends : Tends true t)
      (wraps : ∀ session, (wrap session).error? = none) : Clean RightOutcome (Console.telling wrap t) := by
    refine (of_tends tends).bind fun session _ => .done ?_
    rintro _ e ⟨⟩ failed
    rw [wraps] at failed
    cases failed
  have stored {t : ConsoleTask (Option (Except Error Returned))}
      (clean : Clean (fun r => ∀ outcome, r = some outcome → Typed outcome) t) :
      Clean RightOutcome (t.bind fun r => .done (r.map .store)) := by
    refine clean.bind fun r typed => .done ?_
    intro outcome e told failed
    obtain ⟨result, same, rfl⟩ := Option.map_eq_some_iff.mp told
    cases result with
    | ok returned => cases failed
    | error e' =>
      cases failed
      exact typed _ same e rfl
  cases action with
  | start => exact looking .start fun _ => rfl
  | checkStatus => exact looking .checkStatus fun _ => rfl
  | connect forgetting credentials =>
    cases forgetting with
    | true => exact telling (by rintro (_ | _) e ⟨⟩; rfl) (connect credentials)
    | false => exact telling (by rintro (_ | _) e ⟨⟩; rfl) (openSession credentials)
  | disconnect forgetting =>
    cases forgetting with
    | true => exact telling (by rintro (_ | _) e ⟨⟩; rfl) disconnect
    | false => exact telling (by rintro (_ | _) e ⟨⟩; rfl) closeSession
  | selectedRows policy => exact telling (by rintro (_ | _) e ⟨⟩; rfl) (selectedRows policy)
  | operate operation => exact stored (.operation operation)
  | dropTable table confirmed => exact stored (returning (dropTable table confirmed))
  | alterTable table change confirmed => exact stored (returning (alterTable table change confirmed))
  | executeSql request confirmed => exact stored (returning (executeSql request confirmed))

/-! ### Lives -/

theorem RightOutcome.lasting :
    Task.Lasting fun (_ : Set (Flight Unit)) (_ : Set (Request × Reply)) => RightOutcome :=
  fun _ _ _ _ _ _ _ => id

/-- All tasks keep the payloads of the right kinds. -/
def kinding {E : Type} (submit : E → Request → E × Answer Reply) :
    Discipline (systemBefore submit Outcome) (Set (Flight Unit)) where
  state := OfKinds
  task g heard _ t := t.Meets OfKinds (fun _ _ => RightOutcome) g heard
  state_mono _ _ _ _ _ := id
  task_mono _ _ _ _ _ _ more later meets := meets.mono RightOutcome.lasting more later
  act g heard c _ _ _ kinded meets := meets g heard c le_rfl subset_rfl kinded
  wait _ _ _ _ _ := id
  sleep _ _ _ _ _ := id
  call g heard c _ _ _ reply kinded meets := meets g heard c reply le_rfl subset_rfl kinded
  started g heard c kinded := by
    have quiet : OfKinds g heard ((systemBefore submit Outcome).started c).2 :=
      Cache.Kinded.takeDepartures kinded
    refine ⟨quiet, fun t among => ?_⟩
    obtain ⟨f, departs, settings, rfl⟩ := exists_flying_of_started among
    exact Clean.meets_flying (kinded.ledger.known f departs) settings heard fun _ _ _ _ told => nomatch told

namespace Life

variable {E : Type} {r : Life E} {n m : Nat} {g : Set (Flight Unit)} {heard : Set (Request × Reply)}

/-- Whatever happens keeps the payloads of the right kinds. -/
theorem kinding_succ (kept : (kinding r.submit).Kept g heard (r.history.pool n)) :
    ∃ g', g ≤ g' ∧ (kinding r.submit).Kept g' (heard ∪ {x | r.exchange? n = some x})
      (r.history.pool (n + 1)) := by
  refine History.kept_succ kept (fun t begins => ?_) fun f drifts => ?_
  · obtain ⟨action, _, rfl⟩ := exists_action_of_begin begins
    exact Clean.whole action g heard
  · obtain ⟨e, quiet, same⟩ := (r.does n).event_of_drift drifts (r.console n)
    obtain ⟨g', more, kinded⟩ := Cache.Kinded.event kept.state e quiet
    refine ⟨g', more, ?_⟩
    change (f (r.console n)).cache.Kinded Proper g'
    rw [same]
    exact kinded

theorem kinding_between (le : n ≤ m) (kept : (kinding r.submit).Kept g heard (r.history.pool n)) :
    ∃ g' heard', g ≤ g' ∧ (kinding r.submit).Kept g' heard' (r.history.pool m) := by
  induction m, le using Nat.le_induction with
  | base => exact ⟨g, heard, le_rfl, kept⟩
  | succ m _ ih =>
    obtain ⟨g', heard', more, kept'⟩ := ih
    obtain ⟨g'', more', kept''⟩ := kinding_succ kept'
    exact ⟨g'', _, more.trans more', kept''⟩

/-- Where nothing is cached at first, whatever is cached later is of the kind that its key is read as, and
so is what the fetch brings that an entry waits for. Nothing that is done with the console comes to the
error that a cached value is of another kind. -/
theorem cached_of_kind (r : Life E) (unread : ∃ settings, r.start.cache = .empty settings) (n : Nat) :
    (∀ k e v, (k, e) ∈ (r.console n).cache.entries → e.value = some v → v.isOf k = true) ∧
    (∀ k e mark m v, (k, e) ∈ (r.console n).cache.entries → e.flight = some mark → n ≤ m →
      (r.console m).cache.landing? mark.id = some (.ok v) → v.isOf k = true) ∧
    ∀ begun outcome key, r.returned? begun n = some outcome →
      outcome.error? ≠ some (.decode (.mistyped key)) := by
  obtain ⟨settings, empty⟩ := unread
  have first : (kinding r.submit).Kept ∅ ∅ (r.history.pool 0) := by
    refine ⟨?_, .init _ _⟩
    change r.start.cache.Kinded Proper ∅
    exact empty ▸ .empty settings
  obtain ⟨g, heard, _, kept⟩ := kinding_between (Nat.zero_le n) first
  have kinded : (r.console n).cache.Kinded Proper g := kept.state
  have found {k : Key} {e : Entry Payload} (mem : (k, e) ∈ (r.console n).cache.entries) :
      (r.console n).cache.lookup? k = some e :=
    Cache.lookup?_of_mem kinded.ledger.once mem
  refine ⟨fun k e v mem value => kinded.stored k e v (found mem) value, ?_, ?_⟩
  · intro k e mark m v mem held later landed
    obtain ⟨_, _, f, started, number, rfl, _⟩ := kinded.ledger.marked k e mark (found mem) held
    obtain ⟨g', _, more, kept'⟩ := kinding_between later kept
    have kinded' : (r.console m).cache.Kinded Proper g' := kept'.state
    exact kinded'.fits_of_landing? (more started) (number ▸ landed)
  · intro begun outcome key ended failed
    have right := kept.tasks _ _ (Pool.mem_of_result? ended)
    exact absurd (right outcome _ rfl failed) nofun

/-- A page of rows that has been shown is cached under the key of the page. -/
theorem loading_noUsers_of_kind : (∃ settings, (loading noUsers .tidy).start.cache = .empty settings) ∧
    (∃ k e v, (k, e) ∈ ((loading noUsers .tidy).console 7).cache.entries ∧ e.value = some v ∧
      v.isOf k = true) ∧
    ∃ outcome, (loading noUsers .tidy).returned? 0 7 = some outcome ∧
      ∀ key, outcome.error? ≠ some (.decode (.mistyped key)) := by
  have unread : ∃ settings, (loading noUsers .tidy).start.cache = .empty settings := ⟨_, rfl⟩
  obtain ⟨stored, _, untold⟩ := cached_of_kind (loading noUsers .tidy) unread 7
  have cached : ((loading noUsers .tidy).console 7).cache.entries.any (·.2.value.isSome) = true := by
    decide +kernel
  have come : ((loading noUsers .tidy).returned? 0 7).isSome = true := by decide +kernel
  obtain ⟨⟨k, e⟩, mem, isSome⟩ := List.any_eq_true.mp cached
  obtain ⟨v, value⟩ := Option.isSome_iff_exists.mp isSome
  obtain ⟨outcome, returned⟩ := Option.isSome_iff_exists.mp come
  exact ⟨unread, ⟨k, e, v, mem, value, stored k e v mem value⟩, outcome, returned,
    fun key => untold 0 outcome key returned⟩

end Life

end Console

end DbConsole

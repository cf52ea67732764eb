import DbConsole.Proofs.Console.SessionTurn
import Mathlib.Logic.Relation

/-!
What is ever done to the console, one thing at a time. The work on the session, the work of the store
and the fetches behind it do nothing else.
-/
set_option autoImplicit false

namespace DbConsole

/-- A session may be taken on behind the other one: it has been looked into, an open one is not looked
into for all to see, and only an open one tells of a database. -/
structure Session.Leads (s next : Session) : Prop where
  resolved : next.status ≠ .uninitialized
  steady : s.status = .connected → next.status ≠ .checking
  bare : next.status ≠ .connected → next.database = none ∧ next.engine = none

namespace Session.Leads

theorem connected (s : Session) (database : Option String) (engine : Option Engine) :
    s.Leads (.connected database engine) :=
  ⟨nofun, fun _ => nofun, fun apart => absurd rfl apart⟩

theorem disconnected (s : Session) : s.Leads (.plain .disconnected) :=
  ⟨nofun, fun _ => nofun, fun _ => ⟨rfl, rfl⟩⟩

theorem checking {s : Session} (closed : s.status ≠ .connected) : s.Leads (.plain .checking) :=
  ⟨nofun, fun open_ => absurd open_ closed, fun _ => ⟨rfl, rfl⟩⟩

end Session.Leads

namespace Console

variable {α β : Type}

/-! ### The work on the session -/

/-- One thing that is done to the session, its token or the flags beside them; it may be that the
session is then shown as being checked. -/
inductive SessionDeed (checks : Bool) (c : Console) : Console → Prop
  | session (next : Session) (leads : c.session.Leads next)
    (settled : checks = false → next.status ≠ .checking) : SessionDeed checks c (c.transition next)
  | tokens (tokens : TokenStore) : SessionDeed checks c { c with tokens := tokens }
  | rest (probing collecting : Bool) (now : Nat) :
    SessionDeed checks c { c with probing := probing, collecting := collecting, now := now }

namespace SessionDeed

variable {checks : Bool} {c c' : Console}

theorem weaken (deed : SessionDeed false c c') : SessionDeed checks c c' := by
  cases deed with
  | session next leads settled => exact .session next leads fun _ => settled rfl
  | tokens tokens => exact .tokens tokens
  | rest probing collecting now => exact .rest probing collecting now

theorem cache (deed : SessionDeed checks c c') : c'.cache = c.cache := by
  cases deed with
  | session next _ _ => exact cache_transition c next
  | _ => rfl

theorem workspace (deed : SessionDeed checks c c') : c'.workspace = c.workspace := by
  cases deed with
  | session next _ _ => exact workspace_transition c next
  | _ => rfl

end SessionDeed

/-- All that the task does is work on the session. -/
def Tends (checks : Bool) (t : ConsoleTask α) : Prop :=
  t.Within (Relation.ReflTransGen (SessionDeed checks))

namespace Tends

variable {checks : Bool}

theorem weaken {t : ConsoleTask α} (tends : Tends false t) : Tends checks t :=
  tends.mono fun _ _ deeds => deeds.lift id fun _ _ => SessionDeed.weaken

theorem look (f : Console → α) : Tends checks (Task.look f : ConsoleTask α) :=
  ⟨fun _ => .refl, fun _ => trivial⟩

theorem change {f : Console → Console} (deed : ∀ c, SessionDeed checks c (f c)) :
    Tends checks (Task.change f : ConsoleTask Unit) :=
  ⟨fun c => .single (deed c), fun _ => trivial⟩

theorem connected (database : Option String) (engine : Option Engine) :
    Tends checks (Task.change (·.transition (.connected database engine)) : ConsoleTask Unit) :=
  change fun c => .session _ (.connected c.session database engine) fun _ => nofun

theorem disconnected :
    Tends checks (Task.change (·.transition (.plain .disconnected)) : ConsoleTask Unit) :=
  change fun c => .session _ (.disconnected c.session) fun _ => nofun

theorem setToken (token : String) : Tends checks (Console.setToken token) := by
  refine ⟨fun c => ?_, fun _ => trivial⟩
  dsimp only
  split
  · exact .single (.tokens _)
  · exact .refl

theorem clearToken : Tends checks Console.clearToken := by
  refine ⟨fun c => ?_, fun _ => trivial⟩
  dsimp only
  split
  · exact .single (.tokens _)
  · exact .refl

theorem probing (probing : Bool) :
    Tends checks (Task.change fun c => { c with probing := probing } : ConsoleTask Unit) :=
  change fun c => .rest probing c.collecting c.now

theorem concludeProbe (report : Except Error StatusReport) :
    Tends checks (Console.concludeProbe report) := by
  have ending : Tends checks (Console.clearToken.bind fun _ =>
      Task.change fun c : Console => c.transition (.plain .disconnected)) :=
    clearToken.bind fun _ => disconnected
  cases report with
  | error e => exact ending
  | ok r =>
    rw [Console.concludeProbe]
    split
    · exact connected r.database r.engine
    · exact ending

/-- While a session is open it is not shown as being checked. -/
theorem checking : Tends true (Task.change fun c =>
    if c.session.isConnected then c else c.transition (.plain .checking) : ConsoleTask Unit) := by
  refine ⟨fun c => ?_, fun _ => trivial⟩
  dsimp only
  split
  · exact .refl
  · rename_i closed
    refine .single (.session _ (.checking fun open_ => closed ?_) nofun)
    rw [Session.isConnected, open_]
    rfl

theorem checkStatus : Tends true Console.checkStatus := by
  refine (probing true).bind fun _ => (look _).bind fun has => ?_
  have behind : Tends true ((Task.change fun c : Console => { c with probing := false }).bind fun _ =>
      Task.look (·.session) : ConsoleTask Session) :=
    (probing false).bind fun _ => look _
  split
  · refine checking.bind fun _ => Task.Within.bind (IsRequest.send _ _ _).within fun report => ?_
    exact (concludeProbe report).bind fun _ => behind
  · exact disconnected.bind fun _ => behind

theorem start : Tends true Console.start := by
  refine Task.Within.bind ⟨fun c => ?_, fun _ => trivial⟩ fun _ => checkStatus
  have first : SessionDeed true c { c with collecting := true } := .rest c.probing true c.now
  dsimp only
  split
  · rename_i initial
    refine .head first (.single (.session _ (.checking ?_) nofun))
    rw [initial]
    nofun
  · exact .single first

theorem authenticate (credentials : Credentials) : Tends checks (Console.authenticate credentials) := by
  rw [Console.authenticate]
  cases credentials.validate with
  | error e => trivial
  | ok u =>
    refine (IsRequest.send _ _ _).within.bind fun granted => ?_
    cases granted with
    | error e => trivial
    | ok grant => exact (setToken _).bind fun _ => trivial

theorem openSession (credentials : Credentials) : Tends checks (Console.openSession credentials) := by
  refine (authenticate credentials).bind fun granted => ?_
  cases granted with
  | error e => trivial
  | ok grant => exact (connected _ _).bind fun _ => trivial

theorem signOff : Tends checks Console.signOff := by
  refine (IsRequest.send _ _ _).within.bind fun agreed => ?_
  cases agreed with
  | error e => trivial
  | ok _ => exact clearToken.bind fun _ => trivial

theorem closeSession : Tends checks Console.closeSession :=
  signOff.bind fun _ => clearToken.bind fun _ => disconnected.bind fun _ => trivial

end Tends

/-! ### All work -/

/-- One thing that is done to the console. -/
inductive Deed (c : Console) : Console → Prop
  | session (c' : Console) (deed : SessionDeed true c c') : Deed c c'
  | cache (e : Cache.Event Payload Unit) : Deed c { c with cache := e.apply c.cache }
  | departures : Deed c { c with cache := c.cache.takeDepartures.2 }
  | view (w : Workspace) (onward : c.workspace.Onward w) : Deed c { c with workspace := w }

/-- One thing after the other. -/
def Deeds : Console → Console → Prop :=
  Relation.ReflTransGen Deed

namespace Deeds

variable {c c' c'' : Console}

theorem refl (c : Console) : Deeds c c :=
  Relation.ReflTransGen.refl

theorem trans (first : Deeds c c') (second : Deeds c' c'') : Deeds c c'' :=
  Relation.ReflTransGen.trans first second

theorem of_deed (deed : Deed c c') : Deeds c c' :=
  Relation.ReflTransGen.single deed

theorem of_storing (storing : Storing c c') : Deeds c c' := by
  obtain ⟨e, _, w, onward, rfl⟩ := storing
  have first : Deeds c { c with cache := e.apply c.cache } := of_deed (.cache e)
  exact first.trans (of_deed (.view w onward))

/-- What every deed keeps holds behind all of them. -/
theorem keeps (deeds : Deeds c c') (holds : Console → Prop)
    (each : ∀ c c', Deed c c' → holds c → holds c') (held : holds c) : holds c' := by
  induction deeds with
  | refl => exact held
  | tail _ deed ih => exact each _ _ deed ih

theorem onward (deeds : Deeds c c') : c.workspace.Onward c'.workspace := by
  refine deeds.keeps (fun c' => c.workspace.Onward c'.workspace) ?_ (.refl _)
  intro d d' deed before
  cases deed with
  | session _ deed =>
    rw [deed.workspace]
    exact before
  | view w onward => exact before.trans onward
  | _ => exact before

end Deeds

/-- All that the task does to the console are such deeds. -/
def Works (t : ConsoleTask α) : Prop :=
  t.Within Deeds

theorem Stores.works {t : ConsoleTask α} (stores : Stores t) : Works t :=
  stores.mono fun _ _ => Deeds.of_storing

theorem Tends.works {t : ConsoleTask α} (tends : Tends true t) : Works t :=
  tends.mono fun _ _ deeds => deeds.lift id fun _ c deed => Deed.session c deed

namespace Works

theorem forget : Works Console.forget :=
  ⟨fun c => .of_deed (.cache (c := c) .clear),
    fun _ => ⟨fun c => .of_deed (.view (c := c) _ (.bump _ (Nat.le_refl _))), fun _ => trivial⟩⟩

theorem fly {R : Type} (settings : CacheSettings) (f : Flight Unit) :
    Works (flying settings f : ConsoleTask (Option R)) :=
  within_flying settings f fun c outcome => .of_deed (.cache (.land c.now f outcome))

end Works

/-! ### What actions are put together from -/

/-- The property goes from the work on the session, the work of the store and what forgets the rest
to all that is put together from them. -/
structure Composes (holds : (α : Type) → ConsoleTask α → Prop) : Prop where
  done : ∀ {α : Type} (a : α), holds α (.done a)
  bind : ∀ {α β : Type} {t : ConsoleTask α} {k : α → ConsoleTask β}, holds α t →
    (∀ a, holds β (k a)) → holds β (t.bind k)
  tends : ∀ {α : Type} {t : ConsoleTask α}, Tends true t → holds α t
  stores : ∀ {α : Type} {t : ConsoleTask α}, Stores t → holds α t
  forget : holds Unit forget

namespace Composes

variable {holds : (α : Type) → ConsoleTask α → Prop} (composes : Composes holds)

include composes

theorem connect (credentials : Credentials) : holds _ (Console.connect credentials) := by
  refine composes.bind (composes.tends (.openSession credentials)) fun granted => ?_
  cases granted with
  | error e => exact composes.done _
  | ok grant => exact composes.bind composes.forget fun _ => composes.done _

theorem disconnect : holds _ Console.disconnect :=
  composes.bind (composes.tends .closeSession) fun _ =>
    composes.bind composes.forget fun _ => composes.done _

theorem task (action : Action) : holds _ action.task := by
  cases action with
  | start => exact composes.bind (composes.tends .start) fun _ => composes.done _
  | checkStatus => exact composes.bind (composes.tends .checkStatus) fun _ => composes.done _
  | connect forgetting credentials =>
    cases forgetting with
    | true => exact composes.bind (composes.connect credentials) fun _ => composes.done _
    | false =>
      exact composes.bind (composes.tends (.openSession credentials)) fun _ => composes.done _
  | disconnect forgetting =>
    cases forgetting with
    | true => exact composes.bind composes.disconnect fun _ => composes.done _
    | false => exact composes.bind (composes.tends .closeSession) fun _ => composes.done _
  | operate operation => exact composes.stores (.of_work (.operate operation))
  | dropTable table confirmed => exact composes.stores (.of_work (StoreWork.dropTable _ _).returning)
  | alterTable table change confirmed =>
    exact composes.stores (.of_work (StoreWork.alterTable _ _ _).returning)
  | executeSql request confirmed =>
    exact composes.stores (.of_work (StoreWork.executeSql _ _).returning)
  | selectedRows policy =>
    exact composes.stores (.of_work (StoreWork.selectedRows policy).reporting)

end Composes

theorem Works.composes : Composes fun _ t => Works t where
  done _ := trivial
  bind := Task.Within.bind
  tends := Tends.works
  stores := Stores.works
  forget := Works.forget

end Console

end DbConsole

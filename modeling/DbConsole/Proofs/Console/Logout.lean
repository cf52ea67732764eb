import DbConsole.Proofs.Cache.Since
import DbConsole.Proofs.Console.Clearing
import DbConsole.Proofs.Console.Life
import DbConsole.Proofs.Token.Keeping

/-!
Closing a session while nothing else is done but the fetches that are on their way. Whatever the
backend says to it, on this side the session is over, and nothing of it is left or comes back. The fetches
let their own numbers land and leave all else alone; what one brings that nothing waits for any more does
not come into the cache.
-/
set_option autoImplicit false

namespace DbConsole

theorem Cache.Event.landings_apply {V J : Type} (c : Cache V J) (e : Event V J)
    (quiet : e.lands = false) : (e.apply c).landings = c.landings := by
  cases e with
  | read now key policy job => exact landings_read c now key policy job
  | land now f outcome => cases quiet
  | _ => rfl

namespace Console

/-- What a fetch of the number does, as often as it lands. -/
structure Fetches (id : Nat) (c c' : Console) : Prop where
  apart : c' = { c with cache := c'.cache }
  landings : ∃ brought : List (Except Error Payload),
    c'.cache.landings = brought.map (id, ·) ++ c.cache.landings
  unmarked : (∀ p ∈ c.cache.entries, ∀ mark, p.2.flight = some mark → mark.id ≠ id) →
    c'.cache.entries = c.cache.entries

namespace Fetches

variable {id : Nat} {c c' c'' : Console}

theorem refl (c : Console) : Fetches id c c :=
  ⟨rfl, ⟨[], rfl⟩, fun _ => rfl⟩

theorem trans (first : Fetches id c c') (second : Fetches id c' c'') : Fetches id c c'' where
  apart := by
    rw [second.apart, first.apart]
  landings := by
    obtain ⟨early, before⟩ := first.landings
    obtain ⟨late, behind⟩ := second.landings
    exact ⟨late ++ early, by rw [behind, before, List.map_append, List.append_assoc]⟩
  unmarked none := by
    have same := first.unmarked none
    exact (second.unmarked (same ▸ none)).trans same

theorem land (c : Console) (f : Flight Unit) (outcome : Except Error Payload) :
    Fetches f.id c { c with cache := c.cache.land c.now f outcome } :=
  ⟨rfl, ⟨[outcome], rfl⟩, fun none => Cache.entries_land_of_unmarked none c.now outcome⟩

end Fetches

/-- What brings nothing to the cache lets nothing land. -/
theorem Civil.landings {α : Type} {t : ConsoleTask α} (civil : Civil t) :
    t.Within fun c c' => c'.cache.landings = c.cache.landings := by
  induction t with
  | done a => trivial
  | act update next ih =>
    refine ⟨fun c => ?_, fun c => ih c (civil.2 c)⟩
    obtain ⟨e, quiet, same⟩ := civil.1 c
    rw [same]
    exact e.landings_apply c.cache quiet
  | wait ready next ih => exact ih civil
  | call question next ih => exact fun reply => ih reply (civil reply)
  | sleep time next ih => exact ih civil

/-- Under a name stands what was begun, which lets nothing land, and under none a fetch. -/
structure OfName (name : String) (t : ConsoleTask (Option Outcome)) : Prop where
  named : name ≠ "" → t.Within fun c c' => c'.cache.landings = c.cache.landings
  unnamed : name = "" → ∃ id, t.Within (Fetches id)

namespace Life

variable {E : Type} {r : Life E} {n m : Nat}

theorem ofName (r : Life E) (n : Nat) : (r.history.pool n).AllLeft OfName := by
  induction n with
  | zero => exact .init _ _
  | succ n ih =>
    refine History.allLeft_succ ih (fun _ _ => id) (fun t begins => ?_) ?_ fun c t among => ?_
    · obtain ⟨action, _, rfl⟩ := exists_action_of_begin begins
      exact ⟨fun _ => (Civil.composes.whole action).landings,
        fun unnamed => absurd unnamed Nat.repr_ne_empty⟩
    · intro place waits name t _ _ ofName
      by_cases unnamed : name = ""
      · obtain ⟨id, fetches⟩ := ofName.unnamed unnamed
        exact (fetches.resumes .refl (fun _ _ _ => .trans) _ waits _).mono fun t further =>
          ⟨fun named => absurd unnamed named, fun _ => ⟨id, further⟩⟩
      · have quiet := ofName.named unnamed
        exact (quiet.resumes (fun _ => rfl) (fun _ _ _ first second => second.trans first) _ waits
          _).mono fun t further => ⟨fun _ => further, fun none => absurd none unnamed⟩
    · obtain ⟨f, _, settings, rfl⟩ := exists_flying_of_started among
      refine ⟨fun named => absurd rfl named, fun _ => ⟨f.id, ?_⟩⟩
      exact within_flying settings f fun c => .land c f

/-- A visit to a fetch. -/
theorem fetches_of_runs {t : ConsoleTask (Option Outcome)} (runs : r.Runs n "" t) :
    ∃ id, Fetches id (r.console n) (r.console (n + 1)) := by
  obtain ⟨place, waits, happens, found⟩ := runs
  obtain ⟨id, within_⟩ := (r.ofName n _ _ (List.mem_of_getElem? found)).unnamed rfl
  have ran := (within_.advanceThrough .refl (fun _ _ _ => .trans) waits (r.console n)).1
  have taken : r.console (n + 1) = _ := History.state_succ_of_visit happens found
  rw [taken]
  exact ⟨id, ran.trans ⟨rfl, ⟨[], rfl⟩, fun _ => rfl⟩⟩

/-- Nothing lands but in a visit to a fetch. -/
theorem landings_succ (apart : ∀ t, ¬ r.Runs n "" t) :
    (r.console (n + 1)).cache.landings = (r.console n).cache.landings := by
  by_cases runs : ∃ name t, r.Runs n name t
  · obtain ⟨name, t, place, waits, happens, found⟩ := runs
    have named : name ≠ "" := fun unnamed => apart t ⟨place, waits, happens, unnamed ▸ found⟩
    have within_ := (r.ofName n _ _ (List.mem_of_getElem? found)).named named
    have ran := (within_.advanceThrough (fun _ => rfl)
      (fun _ _ _ first second => second.trans first) waits (r.console n)).1
    have taken : r.console (n + 1) = _ := History.state_succ_of_visit happens found
    rw [taken]
    exact ran
  · by_cases drifts : ∃ f, r.history.happens n = .drift f
    · obtain ⟨f, drift⟩ := drifts
      obtain ⟨e, quiet, same⟩ := (r.does n).event_of_drift drift (r.console n)
      have drifted : r.console (n + 1) = f (r.console n) := History.state_succ_of_drift drift
      rw [drifted, same]
      exact e.landings_apply _ quiet
    · have still : r.console (n + 1) = r.console n :=
        History.state_succ_of_still (fun name t run => runs ⟨name, t, run⟩)
          fun f drift => drifts ⟨f, drift⟩
      rw [still]

/-- The fetch of the number ends there, and brings the outcome. -/
def Brings (r : Life E) (n id : Nat) (outcome : Except Error Payload) : Prop :=
  (r.console (n + 1)).cache.landings = (id, outcome) :: (r.console n).cache.landings

variable {id least : Nat} {outcome : Except Error Payload}

/-- What a fetch brings that is older than all that is waited for does not come into the cache. -/
theorem entries_succ_of_brings (since : (r.console n).cache.Since least) (early : id < least)
    (brings : r.Brings n id outcome) :
    (r.console (n + 1)).cache.entries = (r.console n).cache.entries := by
  by_cases runs : ∃ t, r.Runs n "" t
  · obtain ⟨t, run⟩ := runs
    obtain ⟨other, fetches⟩ := fetches_of_runs run
    obtain ⟨brought, landed⟩ := fetches.landings
    refine fetches.unmarked fun p mem mark held => ?_
    have own : other = id := by
      rw [brings, List.cons_eq_append_iff] at landed
      rcases landed with ⟨_, same⟩ | ⟨rest, same, _⟩
      · exact absurd same.symm (List.cons_ne_self _ _)
      · obtain ⟨_, _, _, first, _⟩ := List.map_eq_cons_iff.mp same
        exact congrArg Prod.fst first
    exact Nat.ne_of_gt (Nat.lt_of_lt_of_le (own ▸ early) (since.marks p mem mark held))
  · have same := landings_succ fun t run => runs ⟨t, run⟩
    exact absurd (brings.symm.trans same) (List.cons_ne_self _ _)

end Life

/-! ### Whatever is done -/

theorem Deed.since {c c' : Console} {least : Nat} (deed : Deed c c')
    (since : c.cache.Since least) : c'.cache.Since least := by
  cases deed with
  | session _ deed =>
    rw [deed.cache]
    exact since
  | cache e => exact since.event e
  | departures => exact ⟨since.next, since.marks⟩
  | view _ _ => exact since

theorem Deeds.nextFlight_le {c c' : Console} (deeds : Deeds c c') :
    c.cache.nextFlight ≤ c'.cache.nextFlight := by
  refine deeds.keeps (fun c' => c.cache.nextFlight ≤ c'.cache.nextFlight) ?_ (Nat.le_refl _)
  intro d d' deed before
  cases deed with
  | session _ deed =>
    rw [deed.cache]
    exact before
  | cache e => exact Nat.le_trans before (e.nextFlight_le d.cache)
  | _ => exact before

/-- From where nothing is cached, nothing that was on its way before comes into the cache. -/
theorem Life.entries_of_late {E : Type} {r : Life E} {begun n m id : Nat}
    {outcome : Except Error Payload} (behind : begun ≤ n)
    (none : (r.console n).cache.entries = []) (later : n ≤ m)
    (early : id < (r.console begun).cache.nextFlight) (brings : r.Brings m id outcome) :
    (r.console (m + 1)).cache.entries = (r.console m).cache.entries := by
  have empty : (r.console n).cache.Since (r.console begun).cache.nextFlight :=
    .of_empty (r.deeds behind).nextFlight_le none
  exact entries_succ_of_brings ((r.deeds later).keeps _ (fun _ _ => Deed.since) empty) early brings

end Console

end DbConsole

namespace DbConsole

/-- The store when the backend has given its reply to the end of the session: it forgets its token if
the backend agrees. -/
def TokenStore.signedOff (s : TokenStore) (reply : Reply) : TokenStore :=
  match reply.read Json "POST /disconnect" with
  | .ok _ => s.cleared
  | .error _ => s

namespace Console

/-- All is as it was but for the cache and the time, and where nothing was cached nothing is. -/
structure Backstage (c c' : Console) : Prop where
  base : c'.base = c.base
  timeout : c'.timeout = c.timeout
  tokens : c'.tokens = c.tokens
  session : c'.session = c.session
  workspace : c'.workspace = c.workspace
  entries : c.cache.entries = [] → c'.cache.entries = []

namespace Backstage

variable {c c' c'' : Console}

theorem refl (c : Console) : Backstage c c :=
  ⟨rfl, rfl, rfl, rfl, rfl, id⟩

theorem trans (first : Backstage c c') (second : Backstage c' c'') : Backstage c c'' where
  base := second.base.trans first.base
  timeout := second.timeout.trans first.timeout
  tokens := second.tokens.trans first.tokens
  session := second.session.trans first.session
  workspace := second.workspace.trans first.workspace
  entries none := second.entries (first.entries none)

theorem of_fetches {id : Nat} (fetches : Fetches id c c') : Backstage c c' := by
  have apart := fetches.apart
  have none : c.cache.entries = [] → c'.cache.entries = [] := fun none =>
    (fetches.unmarked fun p mem => absurd (none ▸ mem) List.not_mem_nil).trans none
  generalize c'.cache = cache at apart none
  subst apart
  exact ⟨rfl, rfl, rfl, rfl, rfl, none⟩

theorem disconnectRequest (same : Backstage c c') :
    disconnectRequest c' = disconnectRequest c := by
  unfold Console.disconnectRequest Console.request
  rw [same.base, same.timeout, same.tokens]

end Backstage

/-- What is left when the session has been closed with the reply. -/
structure SignedOff (c c' : Console) (reply : Reply) (result : Except Error Unit) : Prop where
  session : c'.session = .plain .disconnected
  workspace : c'.workspace = c.workspace
  returns : result = (c.tokens.signedOff reply).clear.map fun _ => ()
  tokens : c'.tokens = (c.tokens.signedOff reply).cleared

/-- What is left when all that belongs to the session has been forgotten as well. -/
structure LoggedOut (c c' : Console) (reply : Reply) (result : Except Error Unit) : Prop where
  session : c'.session = ⟨.disconnected, none, none⟩
  entries : c'.cache.entries = []
  workspace : c'.workspace = { Workspace.initial with generation := c.workspace.generation + 1 }
  returns : result = (c.tokens.signedOff reply).clear.map fun _ => ()
  tokens : c'.tokens = (c.tokens.signedOff reply).cleared
  unstored : result = .ok () → c'.tokens.get? = none

namespace SignedOff

variable {c c' c'' : Console} {reply : Reply} {result : Except Error Unit}

theorem forgotten (signedOff : SignedOff c c' reply result) (same : Backstage c' c'') :
    LoggedOut c ({ c'' with cache := c''.cache.clear }.onWorkspace Workspace.reset) reply
      result where
  session := same.session.trans signedOff.session
  entries := rfl
  workspace := by
    change c''.workspace.reset = _
    rw [same.workspace, signedOff.workspace]
    rfl
  returns := signedOff.returns
  tokens := same.tokens.trans signedOff.tokens
  unstored stored := by
    change c''.tokens.get? = none
    rw [same.tokens, signedOff.tokens, TokenStore.cleared]
    have returns := signedOff.returns
    cases cleared : (c.tokens.signedOff reply).clear with
    | ok s => exact TokenStore.get?_of_clear cleared
    | error e =>
      rw [cleared, stored] at returns
      cases returns

end SignedOff

theorem LoggedOut.later {c c' c'' : Console} {reply : Reply} {result : Except Error Unit}
    (loggedOut : LoggedOut c c' reply result) (same : Backstage c' c'') :
    LoggedOut c c'' reply result where
  session := same.session.trans loggedOut.session
  entries := same.entries loggedOut.entries
  workspace := same.workspace.trans loggedOut.workspace
  returns := loggedOut.returns
  tokens := same.tokens.trans loggedOut.tokens
  unstored ok := by
    rw [same.tokens]
    exact loggedOut.unstored ok

/-- What is done on this side whatever the backend has replied. -/
def shut : ConsoleTask (Except Error Unit) :=
  clearToken.bind fun cleared =>
    (Task.change fun c : Console => c.transition (.plain .disconnected)).bind fun _ => .done cleared

theorem closeSession_eq : closeSession = .call disconnectRequest fun reply =>
    match reply.read Json "POST /disconnect" with
    | .ok _ => clearToken.bind fun _ => shut
    | .error _ => shut := by
  have text : Method.post.name ++ " " ++ (Endpoint.ofSegments ["disconnect"]).display =
      "POST /disconnect" := rfl
  refine congrArg (Task.call _) (funext fun reply => ?_)
  dsimp only [Task.bind]
  rw [text]
  cases reply.read Json "POST /disconnect" <;> rfl

theorem assures_clearToken {rely : Console → Console → Prop} (heard : Set (Request × Reply))
    (c : Console) : clearToken.Assures rely (fun heard' c' cleared => heard' = heard ∧
      c' = { c with tokens := c.tokens.cleared } ∧
        cleared = c.tokens.clear.map fun _ => ()) heard c := by
  unfold clearToken Task.turn TokenStore.cleared
  dsimp only [Task.Assures]
  cases c.tokens.clear <;> exact ⟨rfl, rfl, rfl⟩

section Closing

variable {c c' : Console}

theorem assures_shut {reply : Reply} {heard : Set (Request × Reply)}
    (asked : (disconnectRequest c, reply) ∈ heard) (tokens : c'.tokens = c.tokens.signedOff reply)
    (workspace : c'.workspace = c.workspace) :
    shut.Assures Backstage (fun heard c' result => ∃ reply, (disconnectRequest c, reply) ∈ heard ∧
      SignedOff c c' reply result) heard c' := by
  refine (assures_clearToken heard c').bind ?_
  rintro _ _ _ ⟨rfl, rfl, rfl⟩
  refine ⟨reply, asked, session_transition _ _, ?_, ?_, ?_⟩
  · exact (workspace_transition _ _).trans workspace
  · rw [tokens]
  · rw [tokens_transition, tokens]

variable (same : Backstage c c')

include same

theorem assures_closeSession : closeSession.Assures Backstage
    (fun heard c' result => ∃ reply, (disconnectRequest c, reply) ∈ heard ∧
      SignedOff c c' reply result) ∅ c' := by
  rw [closeSession_eq]
  intro sent reply sending behind received
  have asked := same.trans sending
  have known := asked.trans received
  have question : (disconnectRequest c, reply) ∈
      insert (disconnectRequest sent, reply) (∅ : Set (Request × Reply)) :=
    Or.inl (congrArg (·, reply) asked.disconnectRequest.symm)
  have store := known.tokens
  dsimp only
  cases read : reply.read Json "POST /disconnect" with
  | error e =>
    refine assures_shut question ?_ known.workspace
    rw [TokenStore.signedOff, read]
    exact store
  | ok data =>
    refine (assures_clearToken _ behind).bind ?_
    rintro _ _ _ ⟨rfl, rfl, rfl⟩
    refine assures_shut question ?_ known.workspace
    rw [TokenStore.signedOff, read]
    exact congrArg TokenStore.cleared store

theorem assures_disconnect : Console.disconnect.Assures Backstage
    (fun heard c' result => ∃ reply, (disconnectRequest c, reply) ∈ heard ∧
      LoggedOut c c' reply result) ∅ c' := by
  refine (assures_closeSession same).bind fun heard behind result ⟨reply, asked, signedOff⟩ => ?_
  intro later quiet _
  exact ⟨reply, asked, signedOff.forgotten quiet⟩

end Closing

namespace Life

variable {E : Type} {r : Life E} {begun n : Nat} {result : Except Error Unit}

/-- While nothing is done but to visit fetches, all else stays as it is. -/
theorem backstage_succ {m : Nat} (still : (r.does m).isStill = true)
    (unnamed : ∀ name t, r.Runs m name t → name = "") :
    Backstage (r.console m) (r.console (m + 1)) := by
  by_cases runs : ∃ t, r.Runs m "" t
  · obtain ⟨t, run⟩ := runs
    obtain ⟨id, fetches⟩ := fetches_of_runs run
    exact .of_fetches fetches
  · obtain ⟨now, same⟩ := console_succ_of_still still fun name t run =>
      runs ⟨t, unnamed name t run ▸ run⟩
    rw [same]
    exact ⟨rfl, rfl, rfl, rfl, rfl, id⟩

/-- When a session has been closed and meanwhile nothing else has been done but to visit fetches, the
console is logged out, whatever the backend has replied and whether or not the token could be
forgotten. And from then on, whatever is done, no fetch that had been started when it was begun
brings anything into the cache. -/
theorem loggedOut (r : Life E) (begins : r.does begun = .begin (.disconnect true))
    (alone : r.Only [begun.repr, ""] begun n)
    (returned : r.returned? begun n = some (.closing result)) :
    (∃ sent reply, begun ≤ sent ∧ sent < n ∧
      r.exchange? sent = some (disconnectRequest (r.console begun), reply) ∧
      LoggedOut (r.console begun) (r.console n) reply result) ∧
    ∀ m id outcome, n ≤ m → id < (r.console begun).cache.nextFlight → r.Brings m id outcome →
      (r.console (m + 1)).cache.entries = (r.console m).cache.entries := by
  have relies : r.history.Relies Backstage
      (fun _ heard c' outcome => ∃ result, outcome = some (.closing result) ∧
        ∃ reply, (disconnectRequest (r.console begun), reply) ∈ heard ∧
          LoggedOut (r.console begun) c' reply result)
      begun n (Action.disconnect true).whole :=
    { begins := happens_of_begin begins
      refl := .refl
      trans _ _ _ := .trans
      taken _ := ⟨rfl, rfl, rfl, rfl, rfl, id⟩
      lasting _ _ _ _ _ more := fun ⟨result, same, reply, asked, out⟩ =>
        ⟨result, same, reply, more asked, out⟩
      relied m behind before none := by
        obtain ⟨still, names⟩ := alone m (Nat.le_of_lt behind) before
        refine backstage_succ still fun name t runs => ?_
        rcases List.mem_cons.mp (names name t runs) with rfl | fetch
        · exact absurd runs (none t)
        · exact List.mem_singleton.mp fetch
      assures opened _ same := by
        have first : r.history.state (begun + 1) = r.console begun := console_succ_of_begin begins
        rw [first] at same
        exact (assures_disconnect same).bind fun heard c' result out => ⟨result, rfl, out⟩ }
  obtain ⟨opened, closed, s, behind, le, before, _, _, ⟨_, same, reply, asked, out⟩, relied⟩ :=
    relies.exists_ends returned
  cases same
  have out := out.later relied
  obtain ⟨sent, since, early, exchanged⟩ := asked
  refine ⟨⟨sent, reply, by omega, by omega, exchanged, out⟩, fun m id outcome later older brings => ?_⟩
  exact entries_of_late (by omega) out.entries later older brings

/-- The tables are being fetched when a session is closed with a backend that cannot be reached; then
they are read anew, and the old fetch comes to its end. -/
def leaving : Life Unit where
  submit := gatedBackend (agreeing "\x7b\"tables\":[]\x7d")
    (.failed (.refused "http://db/disconnect"))
  start :=
    { tokenConsole ⟨some "users", [⟨"1"⟩], .schema, Workspace.firstPage, 4⟩ with
      session := .connected (some "a.db") (some .sqlite)
      cache :=
        ⟨⟨1000, 1000, 0, 0⟩, [(.tables, ⟨none, none, false, 0, some ⟨1, 0⟩, none, 0⟩)],
          2, [⟨1, .tables, 0, ()⟩], []⟩ }
  world := ()
  does
    | 0 => .begin (.disconnect true)
    | 1 => .visit 0 0
    | 2 => .visit 1 0
    | 3 => .visit 0 1
    | 4 => .begin (.operate (.read (.one .tables .cached)))
    | 5 => .visit 2 1
    | 6 => .release "late"
    | 7 => .visit 1 1
    | _ => .tidy

theorem leaving_loggedOut : leaving.Only [(0 : Nat).repr, ""] 0 4 ∧
    (∃ reply result, leaving.returned? 0 4 = some (.closing result) ∧
      LoggedOut (leaving.console 0) (leaving.console 4) reply result) ∧
    (∃ tables, leaving.Brings 7 1 (.ok (.tables tables))) ∧
    (leaving.console 7).cache.size = 1 ∧
    (leaving.console 8).cache.entries = (leaving.console 7).cache.entries := by
  have alone : leaving.Only [(0 : Nat).repr, ""] 0 4 := only_of_all (by decide +kernel)
  have closed : ((leaving.returned? 0 4).bind Outcome.closing?).isSome := by decide +kernel
  have before : (leaving.console 7).cache.landings.isEmpty := by decide +kernel
  have landed : (leaving.console 8).cache.landings.map
      (fun l => (l.1, (l.2.toOption.bind Payload.tables?).isSome)) = [(1, true)] := by
    decide +kernel
  obtain ⟨⟨_, brings⟩, last, same⟩ := List.map_eq_singleton_iff.mp landed
  obtain ⟨rfl, listed⟩ := Prod.mk.inj same
  have brought : leaving.Brings 7 1 brings := by
    rw [Brings, List.isEmpty_iff.mp before]
    exact last
  have tables : ∃ tables, brings = .ok (.tables tables) := by
    cases brings with
    | error e => cases listed
    | ok payload =>
      cases payload with
      | tables tables => exact ⟨tables, rfl⟩
      | _ => cases listed
  obtain ⟨tables, rfl⟩ := tables
  obtain ⟨result, told⟩ := Option.isSome_iff_exists.mp closed
  obtain ⟨outcome, returned, closes⟩ := Option.bind_eq_some_iff.mp told
  rw [Outcome.eq_closing closes] at returned
  obtain ⟨⟨_, reply, _, _, _, out⟩, none_⟩ := loggedOut leaving rfl alone returned
  exact ⟨alone, ⟨reply, result, returned, out⟩, ⟨tables, brought⟩, by decide +kernel,
    none_ 7 1 _ (by decide) (by decide +kernel) brought⟩

end Life

end Console

end DbConsole

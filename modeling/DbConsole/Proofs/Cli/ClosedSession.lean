import DbConsole.Cli.Run
import DbConsole.Proofs.Console.Life
import DbConsole.Proofs.Task.Onward

/-!
Calls of commands, on any console and before any backend, in the midst of whatever else is done. If the
session is not found to be open, what is about the open database is refused, and all that the call has
done is to ask for the status.
-/
set_option autoImplicit false

namespace DbConsole

namespace Console

variable {α R : Type}

theorem Silent.advanceThrough {t : ConsoleTask α} (silent : Silent t) (waits : Nat) (c : Console) :
    Silent (t.advanceThrough waits c).2 := by
  refine Task.advanceBy_keeps (fun _ t => Silent t) ?_ ?_ silent _
  · exact fun c _ _ silent => silent c
  · exact fun _ _ _ silent => silent

/-! ### What resolving the session asks -/

theorem Silent.settling (reply : Reply) : Silent (Console.settling reply) := by
  have ended : Silent (clearToken.bind fun _ =>
      Task.change fun c : Console => c.transition (.plain .disconnected)) := fun _ _ => trivial
  refine Silent.bind ?_ fun _ _ _ => trivial
  cases reply.report with
  | error e => exact ended
  | ok r =>
    rw [concludeProbe]
    split
    · exact fun _ => trivial
    · exact ended

/-- What is left of resolving the session, before anything has been asked. -/
def Resolving (k : Session → ConsoleTask α) (t : ConsoleTask α) : Prop :=
  t = Console.start.bind k ∨ t = Console.checkStatus.bind k

variable {k : Session → ConsoleTask α} {t : ConsoleTask α}

/-- Where a visit gets to: it asks for the status at most, where there is a token. Until then the token
remains. -/
theorem advanceThrough_checkStatus_bind (ends : ∀ s, ∃ a, k s = .done a) (waits : Nat) (c : Console) :
    ((Console.checkStatus.bind k).advanceThrough waits c).1.tokens = c.tokens ∧
      (((Console.checkStatus.bind k).advanceThrough waits c).2 = Console.checkStatus.bind k ∨
        (∃ a, ((Console.checkStatus.bind k).advanceThrough waits c).2 = .done a) ∨
        c.tokens.has = true ∧ ∃ next, (∀ reply, Silent (next reply)) ∧
          ((Console.checkStatus.bind k).advanceThrough waits c).2 = .call statusRequest next) := by
  rw [checkStatus_bind]
  rcases Task.advanceThrough_wait waits c (fun c : Console => !c.probing) (.act _ _) with
    same | ⟨_, fewer, same⟩
  · rw [same]
    exact ⟨rfl, Or.inl rfl⟩
  rw [same, Task.advanceThrough_act, Task.advanceThrough_act]
  dsimp only [id]
  by_cases has : c.tokens.has
  · rw [if_pos has, Task.advanceThrough_act, Task.advanceThrough_call]
    refine ⟨by split <;> simp, Or.inr (Or.inr ⟨has, _, fun reply => ?_, rfl⟩)⟩
    refine (Silent.settling reply).bind fun s => ?_
    obtain ⟨a, done⟩ := ends s
    rw [done]
    trivial
  · rw [if_neg has, Task.advanceThrough_act, Task.advanceThrough_act, Task.advanceThrough_act]
    obtain ⟨a, done⟩ := ends (.plain .disconnected)
    simp only [id, session_transition, done, Task.advanceThrough_done]
    exact ⟨by simp, Or.inr (Or.inl ⟨a, rfl⟩)⟩

theorem Resolving.advanceThrough (resolving : Resolving k t) (ends : ∀ s, ∃ a, k s = .done a)
    (waits : Nat) (c : Console) :
    (t.advanceThrough waits c).1.tokens = c.tokens ∧
      (Resolving k (t.advanceThrough waits c).2 ∨ (∃ a, (t.advanceThrough waits c).2 = .done a) ∨
        c.tokens.has = true ∧ ∃ next, (∀ reply, Silent (next reply)) ∧
          (t.advanceThrough waits c).2 = .call statusRequest next) := by
  rcases resolving with rfl | rfl
  · let begun : Console :=
      let c := { c with collecting := true }
      if c.session.status = .uninitialized then c.transition (.plain .checking) else c
    have tokens : begun.tokens = c.tokens := by
      dsimp only [begun]
      split <;> simp
    have same : (Console.start.bind k).advanceThrough waits c =
      (Console.checkStatus.bind k).advanceThrough waits begun := Task.advanceThrough_act waits c _ _
    obtain ⟨kept, left⟩ := advanceThrough_checkStatus_bind ends waits begun
    rw [same]
    exact ⟨kept.trans tokens, left.imp Or.inr (Or.imp_right (And.imp_left (tokens ▸ ·)))⟩
  · obtain ⟨kept, left⟩ := advanceThrough_checkStatus_bind ends waits c
    exact ⟨kept, left.imp Or.inr id⟩

/-- What a visit makes of the console that does nothing but work on the session. -/
structure SparesStore (c c' : Console) : Prop where
  cache : c'.cache = c.cache.takeDepartures.2
  workspace : c'.workspace = c.workspace

theorem Tends.sparesStore {E : Type} {submit : E → Request → E × Answer Reply} {t : ConsoleTask α}
    (tends : Tends true t) (waits : Nat) (c : Console) :
    SparesStore c ((systemBefore submit R).started (t.advanceThrough waits c).1).2 := by
  have keeps (c' : Console) (deeds : Relation.ReflTransGen (SessionDeed true) c c') :
      c'.cache = c.cache ∧ c'.workspace = c.workspace := by
    induction deeds with
    | refl => exact ⟨rfl, rfl⟩
    | tail _ deed ih => exact ⟨deed.cache.trans ih.1, deed.workspace.trans ih.2⟩
  obtain ⟨cache, workspace⟩ := keeps _ (Task.Within.advanceThrough tends (fun _ => .refl)
    (fun _ _ _ => .trans) waits c).1
  exact ⟨congrArg (·.takeDepartures.2) cache, workspace⟩

end Console

namespace Command

open Console

/-- What the tasks come to among which a command is called. -/
inductive Told where
  | session (session : Session)
  | shown (result : Except Error String)

/-- All commands but those that are about the session itself are about the open database. -/
theorem needsConnection_of_ne {c : Command}
    (connect : ∀ engine database host port username password,
      c ≠ .connect engine database host port username password)
    (status : c ≠ .status) (disconnect : c ≠ .disconnect) : c.needsConnection = true := by
  cases c with
  | connect engine database host port username password =>
    exact absurd rfl (connect engine database host port username password)
  | status => exact absurd rfl status
  | disconnect => exact absurd rfl disconnect
  | _ => rfl

def Told.session? : Told → Option Session
  | .session s => some s
  | .shown _ => none

theorem Told.eq_session {told : Option Told} {s : Session} (is : told.bind session? = some s) :
    told = some (.session s) := by
  obtain ⟨told, rfl, is⟩ := Option.bind_eq_some_iff.mp is
  cases told <;> cases is
  rfl

def resolved (s : Session) : ConsoleTask (Option Told) :=
  .done (some (.session s))

/-- Resolves the session and tells it. -/
def resolving : ConsoleTask (Option Told) :=
  Console.start.bind resolved

/-- A call of a command from any console on, and all that happens but for the call itself. -/
structure Call (E : Type) where
  submit : E → Request → E × Answer Reply
  start : Console
  world : E
  happens : Nat → Pool.Event Console E Request Reply Told
  begun : Nat
  command : Command
  format : Format

namespace Call

variable {E : Type}

section Points

variable (c : Call E)

def history (t : ConsoleTask (Option Told)) : History (systemBefore c.submit Told) :=
  History.beginning ⟨c.start, c.world, c.happens⟩ c.begun t

/-- What happens with the call. -/
def run : History (systemBefore c.submit Told) :=
  c.history ((c.command.run c.format).bind fun r => .done (some (.shown r)))

/-- What happens if in place of the call the session is resolved and nothing else is done. -/
def resolution : History (systemBefore c.submit Told) :=
  c.history resolving

/-- What the call does behind the resolution. -/
def proceeding : Option Told → ConsoleTask (Option Told)
  | some (.session s) =>
    (if c.command.needsConnection && !s.isConnected then
      .done (.error (.invalid .notConnected))
    else c.command.perform c.format s : ConsoleTask (Except Error String)).bind fun r =>
      .done (some (.shown r))
  | told => .done told

/-- What a call comes to that is refused. -/
def refusal : Option Told → Option Told
  | some (.session _) => some (.shown (.error (.invalid .notConnected)))
  | told => told

end Points

variable {c : Call E} {n m : Nat} {session : Session}

theorem run_eq : c.run = c.history (resolving.bind c.proceeding) := by
  rw [run, resolving, Task.bind_bind]
  refine congrArg c.history ?_
  rw [Command.run]
  exact Task.bind_bind _ _ _

/-! ### Nothing but the resolution -/

variable (c) in
/-- The call has put no question up to the point. -/
def Unasked (n : Nat) : Prop :=
  ∀ m < n, ∀ request, c.resolution.sent? m ≠ some (c.begun.repr, request)

theorem Unasked.succ (unasked : c.Unasked n)
    (here : ∀ request, c.resolution.sent? n ≠ some (c.begun.repr, request)) : c.Unasked (n + 1) := by
  intro m lt request sent
  rcases Nat.lt_succ_iff_lt_or_eq.mp lt with before | rfl
  · exact unasked m before request sent
  · exact here request sent

/-- How far the resolution has got: nothing has been asked yet, nothing is asked any more, or it is over. -/
inductive Stage (c : Call E) (n : Nat) : ConsoleTask (Option Told) → Prop
  | before {t} (resolving : Resolving resolved t) (unasked : c.Unasked n) : Stage c n t
  | behind {t} (silent : Silent t) (asked : ¬ c.Unasked n) : Stage c n t
  | ended (told : Option Told) : Stage c n (.done told)

theorem stages (lt : c.begun < n) :
    (c.resolution.pool n).AllLeft fun name t => name = c.begun.repr → c.Stage n t := by
  have ends (s : Session) : ∃ a, resolved s = .done a := ⟨_, rfl⟩
  refine History.tracked c.Stage History.happens_beginning (.before (Or.inl rfl) ?_) ?_ ?_ lt
  · intro m lt request sent
    exact absurd (History.lt_of_sent? sent) (Nat.not_lt.mpr (Nat.le_of_lt_succ lt))
  · intro n place waits t lt visits found stage
    cases stage with
    | before resolving unasked =>
      obtain ⟨-, stays | ⟨told, done⟩ | ⟨-, next, silent, asks⟩⟩ :=
        resolving.advanceThrough ends waits (c.resolution.state n)
      · have unasked' : c.Unasked (n + 1) := unasked.succ fun request sent => by
          obtain ⟨_, _, _, _, _, visits', found', asks, _⟩ := History.exists_call_of_sent? sent
          cases visits.symm.trans visits'
          cases found.symm.trans found'
          rw [asks] at stays
          exact stays.elim nofun nofun
        cases rest : (t.advanceThrough waits (c.resolution.state n)).2 with
        | call question next =>
          rw [rest] at stays
          exact stays.elim nofun nofun
        | sleep time next =>
          rw [rest] at stays
          exact stays.elim nofun nofun
        | _ => exact .before (rest ▸ stays) unasked'
      · rw [done]
        exact .ended told
      · rw [asks]
        refine fun reply _ => .behind (silent reply) fun unasked => ?_
        exact unasked n (Nat.lt_succ_self n) _ (History.sent?_of_call visits found asks)
    | behind silent asked =>
      have asked' : ¬ c.Unasked (n + 1) := fun unasked =>
        asked fun m lt => unasked m (Nat.lt_succ_of_lt lt)
      have silent' := silent.advanceThrough waits (c.resolution.state n)
      cases rest : (t.advanceThrough waits (c.resolution.state n)).2 with
      | call question next =>
        rw [rest] at silent'
        exact silent'.elim
      | _ =>
        rw [rest] at silent'
        exact .behind silent' asked'
    | ended told =>
      rw [Task.advanceThrough_done]
      exact .ended told
  · intro n t lt still stage
    cases stage with
    | before resolving unasked =>
      refine .before resolving (unasked.succ fun request sent => ?_)
      obtain ⟨place, waits, t', _, _, visits, found, _⟩ := History.exists_call_of_sent? sent
      exact still t' ⟨place, waits, visits, found⟩
    | behind silent asked =>
      exact .behind silent fun unasked => asked fun m lt => unasked m (Nat.lt_succ_of_lt lt)
    | ended told => exact .ended told

/-- What the resolution asks is the status, once, and only with a token. -/
theorem sent_of_resolution {request : Request}
    (sent : c.resolution.sent? m = some (c.begun.repr, request)) :
    request = statusRequest (c.resolution.state (m + 1)) ∧
      (c.resolution.state m).tokens.has = true ∧ c.Unasked m := by
  obtain ⟨place, waits, t, question, next, visits, found, asks, same⟩ :=
    History.exists_call_of_sent? sent
  have stage : c.Stage m t :=
    stages (History.lt_of_sent? sent) _ _ (List.mem_of_getElem? found) rfl
  cases stage with
  | before resolving unasked =>
    obtain ⟨-, stays | ⟨told, done⟩ | ⟨has, _, _, asks'⟩⟩ :=
      resolving.advanceThrough (fun s => ⟨_, rfl⟩) waits (c.resolution.state m)
    · rw [asks] at stays
      exact stays.elim nofun nofun
    · cases asks.symm.trans done
    · cases asks.symm.trans asks'
      exact ⟨same, has, unasked⟩
  | behind silent asked =>
    have silent' := silent.advanceThrough waits (c.resolution.state m)
    rw [asks] at silent'
    exact silent'.elim
  | ended told =>
    rw [Task.advanceThrough_done] at asks
    cases asks

/-- The resolution does nothing but work on the session; before it has asked it leaves the token. -/
theorem spares_of_runs {t : ConsoleTask (Option Told)} (runs : c.resolution.Runs m c.begun.repr t) :
    SparesStore (c.resolution.state m) (c.resolution.state (m + 1)) ∧
      (c.Unasked m → (c.resolution.state (m + 1)).tokens = (c.resolution.state m).tokens) := by
  have lt := History.lt_of_runs runs
  obtain ⟨place, waits, visits, found⟩ := runs
  have tends : (c.resolution.pool m).AllLeft fun name t => name = c.begun.repr → Tends true t := by
    refine History.tracked (fun _ t => Tends true t) History.happens_beginning ?_ ?_ ?_ lt
    · exact Tends.start.bind fun _ => trivial
    · exact fun n _ waits t _ _ _ tends =>
        Task.Within.resumes tends (fun _ => .refl) (fun _ _ _ => .trans) _ waits _
    · exact fun _ _ _ _ tends => tends
  rw [History.state_succ_of_visit visits found]
  refine ⟨(tends _ _ (List.mem_of_getElem? found) rfl).sparesStore waits _, fun unasked => ?_⟩
  have stage : c.Stage m t := stages lt _ _ (List.mem_of_getElem? found) rfl
  cases stage with
  | before resolving _ => exact (resolving.advanceThrough (fun s => ⟨_, rfl⟩) waits _).1
  | behind _ asked => exact absurd unasked asked
  | ended told =>
    rw [Task.advanceThrough_done]
    rfl

/-! ### The call -/

section

variable (needs : c.command.needsConnection = true)
  (resolved : c.resolution.result? c.begun n = some (.session session))
  (closed : session.isConnected = false)

include needs resolved closed

theorem proceeding_of_mem_ended {told : Option Told}
    (ended : (c.begun.repr, .ended told) ∈ (c.resolution.pool m).threads) :
    c.proceeding told = .done (refusal told) := by
  cases History.eq_of_mem_ended History.happens_beginning ended resolved
  rw [proceeding, needs, closed]
  rfl

theorem pool_run (m : Nat) :
    c.run.pool m = (c.resolution.pool m).onward c.begun.repr c.proceeding refusal := by
  rw [run_eq]
  exact History.pool_onward fun _ => proceeding_of_mem_ended needs resolved closed

theorem state_run (m : Nat) : c.run.state m = c.resolution.state m := by
  rw [History.state, pool_run needs resolved closed]
  rfl

theorem sent?_run (m : Nat) : c.run.sent? m = c.resolution.sent? m := by
  rw [run_eq]
  exact History.sent?_onward fun _ => proceeding_of_mem_ended needs resolved closed

theorem result?_run :
    c.run.result? c.begun n = some (.shown (.error (.invalid .notConnected))) := by
  refine History.result?_of_mem_ended History.happens_beginning ?_
  rw [pool_run needs resolved closed]
  exact Pool.mem_onward (Pool.mem_of_result? resolved)

theorem exists_runs_of_run {name : String} {t : ConsoleTask (Option Told)}
    (runs : c.run.Runs m name t) : ∃ t, c.resolution.Runs m name t := by
  obtain ⟨place, waits, visits, found⟩ := runs
  rw [pool_run needs resolved closed] at found
  obtain ⟨t, found⟩ := Pool.exists_ready_of_onward found
  refine ⟨t, place, waits, ?_, found⟩
  by_cases here : m = c.begun
  · subst here
    cases (History.happens_beginning (h := ⟨c.start, c.world, c.happens⟩)).symm.trans visits
  · exact (History.happens_beginning_of_ne here).trans
      ((History.happens_beginning_of_ne here).symm.trans visits)

end

/-! ### A call with nothing else done meanwhile -/

def evicting (now : Nat) (c : Console) : Console :=
  { c with cache := c.cache.collect now }

def elapsing (now : Nat) (c : Console) : Console :=
  { c with now := now }

/-- From the call up to the point no other task has a visit, and nothing changes by itself but that
what is not used is collected and time goes on. -/
def Alone (c : Call E) (n : Nat) : Prop :=
  ∀ m, c.begun < m → m < n → (∀ name t, c.run.Runs m name t → name = c.begun.repr) ∧
    ∀ f, c.run.happens m = .drift f → ∃ now, f = evicting now ∨ f = elapsing now

/-- Nothing has been asked without a token, the view is as it was when the command was called, and so is
the cache but for entries that a collection has found not to be used. -/
structure Untouched (c : Call E) (n : Nat) : Prop where
  workspace : (c.run.state n).workspace = (c.run.state c.begun).workspace
  entries : (c.run.state n).cache.entries.Sublist (c.run.state c.begun).cache.entries
  evicted : ∀ entry ∈ (c.run.state c.begun).cache.entries, entry ∉ (c.run.state n).cache.entries →
    ∃ m now, c.begun < m ∧ m < n ∧ c.run.happens m = .drift (evicting now) ∧
      (c.run.state m).cache.isUsed now entry.2 = false
  tokens : (∀ m < n, ∀ request, c.run.sent? m ≠ some (c.begun.repr, request)) →
    (c.run.state n).tokens = (c.run.state c.begun).tokens
  unasked : (c.run.state c.begun).tokens.has = false →
    ∀ m name request, c.begun < m → m < n → c.run.sent? m ≠ some (name, request)

namespace Untouched

theorem begun (c : Call E) : c.Untouched (c.begun + 1) := by
  have same : c.run.state (c.begun + 1) = c.run.state c.begun := by
    refine History.state_succ_of_still ?_ fun f drifts => ?_
    · rintro name t ⟨_, _, visits, _⟩
      cases History.happens_beginning.symm.trans visits
    · cases History.happens_beginning.symm.trans drifts
  refine ⟨?_, ?_, ?_, ?_, ?_⟩
  · rw [same]
  · rw [same]
  · intro entry member gone
    exact absurd (same ▸ member) gone
  · exact fun _ => congrArg Console.tokens same
  · exact fun _ m _ _ after before => absurd before (Nat.not_lt.mpr after)

/-- What leaves the view and takes away only entries that are not used leaves the rest untouched. -/
theorem succ (untouched : c.Untouched m) (lt : c.begun < m)
    (workspace : (c.run.state (m + 1)).workspace = (c.run.state m).workspace)
    (entries : (c.run.state (m + 1)).cache.entries.Sublist (c.run.state m).cache.entries)
    (evicted : ∀ entry ∈ (c.run.state m).cache.entries,
      entry ∉ (c.run.state (m + 1)).cache.entries → ∃ now, c.run.happens m = .drift (evicting now) ∧
        (c.run.state m).cache.isUsed now entry.2 = false)
    (tokens : (∀ m' < m, ∀ request, c.run.sent? m' ≠ some (c.begun.repr, request)) →
      (c.run.state (m + 1)).tokens = (c.run.state m).tokens)
    (unasked : (c.run.state c.begun).tokens.has = false →
      ∀ name request, c.run.sent? m ≠ some (name, request)) : c.Untouched (m + 1) where
  workspace := workspace.trans untouched.workspace
  entries := entries.trans untouched.entries
  evicted entry member gone := by
    by_cases still : entry ∈ (c.run.state m).cache.entries
    · obtain ⟨now, facts⟩ := evicted entry still gone
      exact ⟨m, now, lt, Nat.lt_succ_self m, facts⟩
    · obtain ⟨m', now, after, before, facts⟩ := untouched.evicted entry member still
      exact ⟨m', now, after, Nat.lt_succ_of_lt before, facts⟩
  tokens unsent := by
    have unsent' := fun m' (before : m' < m) => unsent m' (Nat.lt_succ_of_lt before)
    exact (tokens unsent').trans (untouched.tokens unsent')
  unasked none m' name request after before := by
    rcases Nat.lt_succ_iff_lt_or_eq.mp before with earlier | rfl
    · exact untouched.unasked none m' name request after earlier
    · exact unasked none name request

end Untouched

section

variable (needs : c.command.needsConnection = true)
  (resolved : c.resolution.result? c.begun n = some (.session session))
  (closed : session.isConnected = false)

include needs resolved closed

theorem spares_run {t : ConsoleTask (Option Told)} (runs : c.run.Runs m c.begun.repr t) :
    SparesStore (c.run.state m) (c.run.state (m + 1)) ∧
      ((∀ m' < m, ∀ request, c.run.sent? m' ≠ some (c.begun.repr, request)) →
        (c.run.state (m + 1)).tokens = (c.run.state m).tokens) := by
  obtain ⟨t, runs⟩ := exists_runs_of_run needs resolved closed runs
  simp only [state_run needs resolved closed, sent?_run needs resolved closed]
  exact spares_of_runs runs

theorem sent_run {request : Request} (sent : c.run.sent? m = some (c.begun.repr, request)) :
    request = statusRequest (c.run.state (m + 1)) ∧ (c.run.state m).tokens.has = true ∧
      ∀ m' < m, ∀ request, c.run.sent? m' ≠ some (c.begun.repr, request) := by
  simp only [state_run needs resolved closed, sent?_run needs resolved closed] at sent ⊢
  exact sent_of_resolution sent

theorem untouched (lt : c.begun < m) (alone : c.Alone m) : c.Untouched m := by
  induction m, lt using Nat.le_induction with
  | base => exact .begun c
  | succ m lt ih =>
    have untouched := ih fun m' after before => alone m' after (Nat.lt_succ_of_lt before)
    obtain ⟨mine, drifts⟩ := alone m lt (Nat.lt_succ_self m)
    have unasked (none : (c.run.state c.begun).tokens.has = false) (name : String) (request : Request) :
        c.run.sent? m ≠ some (name, request) := by
      intro sent
      obtain ⟨place, waits, t, _, _, visits, found, _⟩ := History.exists_call_of_sent? sent
      cases mine name t ⟨place, waits, visits, found⟩
      obtain ⟨-, has, unsent⟩ := sent_run needs resolved closed sent
      rw [untouched.tokens unsent, none] at has
      cases has
    have kept (same : (c.run.state (m + 1)).cache.entries = (c.run.state m).cache.entries) :
        ∀ entry ∈ (c.run.state m).cache.entries, entry ∉ (c.run.state (m + 1)).cache.entries →
          ∃ now, c.run.happens m = .drift (evicting now) ∧
            (c.run.state m).cache.isUsed now entry.2 = false :=
      fun entry member gone => absurd (same ▸ member) gone
    by_cases runs : ∃ name t, c.run.Runs m name t
    · obtain ⟨name, t, runs⟩ := runs
      cases mine name t runs
      obtain ⟨spares, tokens⟩ := spares_run needs resolved closed runs
      have same : (c.run.state (m + 1)).cache.entries = (c.run.state m).cache.entries := by
        rw [spares.cache]
        rfl
      exact untouched.succ lt spares.workspace (same ▸ .refl _) (kept same) tokens unasked
    by_cases drift : ∃ f, c.run.happens m = .drift f
    · obtain ⟨f, drift⟩ := drift
      have after := History.state_succ_of_drift drift
      obtain ⟨now, rfl | rfl⟩ := drifts f drift
      · refine untouched.succ lt ?_ ?_ (fun entry member gone => ⟨now, drift, ?_⟩) (fun _ => ?_) unasked
        · rw [after]
          rfl
        · rw [after]
          exact List.filter_sublist
        · rw [after] at gone
          exact Bool.eq_false_iff.mpr fun used => gone (List.mem_filter.mpr ⟨member, used⟩)
        · rw [after]
          rfl
      · have same : (c.run.state (m + 1)).cache.entries = (c.run.state m).cache.entries := by
          rw [after]
          rfl
        refine untouched.succ lt ?_ (same ▸ .refl _) (kept same) (fun _ => ?_) unasked <;>
          rw [after] <;> rfl
    · have same : c.run.state (m + 1) = c.run.state m :=
        History.state_succ_of_still (fun name t run => runs ⟨name, t, run⟩) fun f h => drift ⟨f, h⟩
      refine untouched.succ lt ?_ ?_ (kept ?_) (fun _ => ?_) unasked <;> rw [same]

end

/-- Where the call of a command that opens, tells or closes no session finds none open, the command is
refused. What there is of the call is the resolution of the session, so the console lives on as if nothing
else had been called. Each visit to it leaves the view and all that is cached; it asks nothing but the
status, once and only with a token. Where nothing else is done meanwhile, the view is in the end as it
was, and of the cache at most what is not used has been collected. -/
theorem refused_unless_connected (c : Call E)
    (connect : ∀ engine database host port username password,
      c.command ≠ .connect engine database host port username password)
    (status : c.command ≠ .status) (disconnect : c.command ≠ .disconnect) {n : Nat}
    {session : Session} (resolved : c.resolution.result? c.begun n = some (.session session))
    (closed : session.isConnected = false) :
    c.run.result? c.begun n = some (.shown (.error (.invalid .notConnected))) ∧
      (∀ m, c.run.state m = c.resolution.state m) ∧
      (∀ m t, c.run.Runs m c.begun.repr t → SparesStore (c.run.state m) (c.run.state (m + 1))) ∧
      (∀ m request, c.run.sent? m = some (c.begun.repr, request) →
        request = statusRequest (c.run.state (m + 1)) ∧ (c.run.state m).tokens.has = true ∧
          ∀ m' < m, ∀ request', c.run.sent? m' ≠ some (c.begun.repr, request')) ∧
      ∀ m, c.begun < m → c.Alone m → c.Untouched m := by
  have needs := needsConnection_of_ne connect status disconnect
  refine ⟨result?_run needs resolved closed, state_run needs resolved closed, ?_, ?_, ?_⟩
  · exact fun m t runs => (spares_run needs resolved closed runs).1
  · exact fun m request => sent_run needs resolved closed
  · exact fun m => untouched needs resolved closed

/-- A backend that holds no database open is told to drop a table. Meanwhile an entry has become old, and
another one is still being fetched. -/
def offline : Call Unit where
  submit := gatedBackend (agreeing "\x7b\"connected\":false\x7d") (agreeing "null")
  start :=
    { tokenConsole (Workspace.initial.selectTable (some "t")) with
      cache := ((((Cache.empty ⟨1000, 1000, 0, 0⟩).read 0 .tables .cached ()).1.land 0
        ⟨1, .tables, 0, ()⟩ (.ok (.tables []))).read 0 (.columns "t") .cached ()).1.takeDepartures.2 }
  world := ()
  happens
    | 0 => .drift (elapsing 5)
    | 2 => .visit 0 1
    | 3 => .release "late"
    | 4 => .drift (evicting 9000)
    | 5 => .visit 0 0
    | _ => .tidy
  begun := 1
  command := .dropTable "t" true
  format := .table

theorem offline_alone : offline.Alone 6 := by
  intro m after before
  have names : (List.range 6).all (fun m =>
      (offline.run.pool m).names.all (· == offline.begun.repr)) = true := by decide +kernel
  refine ⟨fun name t ⟨place, waits, _, found⟩ => ?_, fun f drift => ?_⟩
  · have here := List.all_eq_true.mp names m (List.mem_range.mpr before)
    have member : name ∈ (offline.run.pool m).names :=
      List.mem_map.mpr ⟨_, List.mem_of_getElem? found, rfl⟩
    exact beq_iff_eq.mp (List.all_eq_true.mp here name member)
  · match m with
    | 4 =>
      cases drift
      exact ⟨9000, Or.inl rfl⟩
    | 2 | 3 | 5 => cases drift

/-- The table is not dropped; the status has been asked for, and what was old has been collected. -/
theorem offline_refused :
    offline.resolution.result? 1 6 = some (.session (.plain .disconnected)) ∧
      offline.run.result? 1 6 = some (.shown (.error (.invalid .notConnected))) ∧
      (offline.run.sent? 2).map (fun sent => (sent.1, sent.2.method)) = some (Nat.repr 1, .get) ∧
      offline.Untouched 6 ∧
      (offline.run.state 1).cache.entries.map Prod.fst = [.tables, .columns "t"] ∧
      (offline.run.state 6).cache.entries.map Prod.fst = [.columns "t"] := by
  have resolved : offline.resolution.result? 1 6 = some (.session (.plain .disconnected)) :=
    Told.eq_session (by decide +kernel)
  obtain ⟨refused, -, -, -, untouched⟩ :=
    refused_unless_connected offline nofun nofun nofun resolved rfl
  exact ⟨resolved, refused, by decide +kernel, untouched 6 (by decide) offline_alone,
    by decide +kernel, by decide +kernel⟩

end Call

end Command

end DbConsole

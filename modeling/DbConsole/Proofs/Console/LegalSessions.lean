import DbConsole.Proofs.Console.Life

/-!
The sessions that observers are told of. However checks, openings and closings of the session come in
between each other, each session that is shown is another one than the one before and may follow it,
and a check that is over is not shown as being under way.
-/
set_option autoImplicit false

namespace DbConsole.Console

variable {α β : Type}

/-- The sessions that observers have seen, the latest first. -/
def seen (c : Console) : List Session :=
  c.published ++ [.initial]

/-- Sessions, the latest first, as observers may see them. -/
structure Legal (sessions : List Session) : Prop where
  moves : sessions.IsChain fun later earlier => later ≠ earlier ∧ later.status ≠ .uninitialized ∧
    ¬ (earlier.status = .connected ∧ later.status = .checking)
  bare : ∀ s ∈ sessions, s.status ≠ .connected → s.database = none ∧ s.engine = none

/-- A console of which nothing is known yet. -/
structure Fresh (c : Console) : Prop where
  session : c.session = .initial
  published : c.published = []
  cache : ∃ settings, c.cache = .empty settings

theorem fresh_of_create {address : String} {tokens : TokenStore} {settings : CacheSettings}
    {timeout : Option Nat} {c : Console} (created : create address tokens settings timeout = .ok c) :
    c.Fresh := by
  unfold create at created
  cases base : baseUrl address with
  | error e =>
    rw [base] at created
    cases created
  | ok base =>
    rw [base] at created
    cases created
    exact ⟨rfl, rfl, settings, rfl⟩

/-! ### What is seen -/

/-- The latest session is the one that the console has, and all are legal. -/
structure Shows (c : Console) : Prop where
  current : c.seen.head? = some c.session
  legal : Legal c.seen

theorem Fresh.shows {c : Console} (fresh : c.Fresh) : c.Shows := by
  have only : c.seen = [.initial] := by rw [seen, fresh.published, List.nil_append]
  refine ⟨?_, ?_, ?_⟩
  · rw [only, fresh.session]
    rfl
  · rw [only]
    exact .singleton _
  · rw [only]
    rintro s member _
    cases List.mem_singleton.mp member
    exact ⟨rfl, rfl⟩

theorem Shows.transition {c : Console} (shows : c.Shows) {next : Session}
    (leads : c.session.Leads next) : (c.transition next).Shows := by
  unfold Console.transition
  split
  · exact shows
  · rename_i apart
    have seen : Console.seen { c with session := next, published := next :: c.published } =
        next :: c.seen := rfl
    refine ⟨rfl, ?_, ?_⟩ <;> rw [seen]
    · refine shows.legal.moves.cons fun earlier first => ?_
      cases shows.current.symm.trans first
      exact ⟨fun same => apart same.symm, leads.resolved, fun ⟨open_, checked⟩ =>
        leads.steady open_ checked⟩
    · intro s member
      rcases List.mem_cons.mp member with rfl | member
      · exact leads.bare
      · exact shows.legal.bare s member

theorem Shows.deeds {c c' : Console} (shows : c.Shows) (deeds : Deeds c c') : c'.Shows := by
  refine deeds.keeps _ (fun d d' deed before => ?_) shows
  cases deed with
  | session _ deed =>
    cases deed with
    | session next leads settled => exact before.transition leads
    | _ => exact ⟨before.current, before.legal⟩
  | _ => exact ⟨before.current, before.legal⟩

/-! ### What is owed -/

/-- The task does not bring it about that the session is shown as being checked. -/
def Discreet (t : ConsoleTask α) : Prop :=
  t.Within fun c c' => c'.session.status = .checking → c.session.status = .checking

theorem Discreet.of_aloof {t : ConsoleTask α} (aloof : Aloof t) : Discreet t :=
  aloof.mono fun _ _ same checked => same.1 ▸ checked

theorem Tends.discreet {t : ConsoleTask α} (tends : Tends false t) : Discreet t := by
  refine tends.mono fun c c' deeds checked => ?_
  induction deeds with
  | refl => exact checked
  | tail _ deed ih =>
    cases deed with
    | session next leads settled =>
      rw [session_transition] at checked
      exact absurd checked (settled rfl)
    | _ => exact ih checked

theorem Discreet.advanceThrough {t : ConsoleTask α} (discreet : Discreet t) (waits : Nat)
    (c : Console) :
    ((t.advanceThrough waits c).1.session.status = .checking → c.session.status = .checking) ∧
      Discreet (t.advanceThrough waits c).2 :=
  Task.Within.advanceThrough discreet (fun _ => id)
    (fun _ _ _ first second checked => first (second checked)) waits c

/-- The task owes it that the session is no longer shown as being checked: it brings this about before
it ends, and does nothing against it from then on. -/
def Settles : ConsoleTask α → Prop
  | .done _ => False
  | .act update next => (∀ c, Settles (next c)) ∨
      ((∀ c, (update c).session.status ≠ .checking) ∧ ∀ c, Discreet (next c))
  | .wait _ next => Settles next
  | .call _ next => ∀ reply, Settles (next reply)
  | .sleep _ next => Settles next

namespace Settles

theorem bind {t : ConsoleTask α} {k : α → ConsoleTask β} (settles : Settles t)
    (rest : ∀ a, Discreet (k a)) : Settles (t.bind k) := by
  induction t with
  | done a => exact settles.elim
  | act update next ih =>
    refine settles.imp (fun further c => ih c (further c)) fun ⟨settled, discreet⟩ => ?_
    exact ⟨settled, fun c => (discreet c).bind rest⟩
  | wait ready next ih => exact ih settles
  | call question next ih => exact fun reply => ih reply (settles reply)
  | sleep time next ih => exact ih settles

/-- What comes before does not matter. -/
theorem behind (t : ConsoleTask β) {k : β → ConsoleTask α} (settles : ∀ b, Settles (k b)) :
    Settles (t.bind k) := by
  induction t with
  | done b => exact settles b
  | act update next ih => exact Or.inl ih
  | wait ready next ih => exact ih
  | call question next ih => exact ih
  | sleep time next ih => exact ih

theorem transition {next : Session} (settled : next.status ≠ .checking) :
    Settles (Task.change (·.transition next) : ConsoleTask Unit) := by
  refine Or.inr ⟨fun c => ?_, fun _ => trivial⟩
  rw [session_transition]
  exact settled

theorem concludeProbe (report : Except Error StatusReport) :
    Settles (Console.concludeProbe report) := by
  have ending : Settles (clearToken.bind fun _ =>
      Task.change fun c : Console => c.transition (.plain .disconnected)) :=
    behind _ fun _ => transition (by decide)
  cases report with
  | error e => exact ending
  | ok r =>
    rw [Console.concludeProbe]
    split
    · refine transition ?_
      rintro ⟨⟩
    · exact ending

theorem checkStatus : Settles Console.checkStatus := by
  have tends : Tends false ((Task.change fun c : Console => { c with probing := false }).bind
      fun _ => Task.look (·.session) : ConsoleTask Session) :=
    (Tends.probing false).bind fun _ => Tends.look _
  have discreet := tends.discreet
  refine behind _ fun _ => behind _ fun _ => behind (Task.look _) fun has => ?_
  split
  · exact behind _ fun _ => behind _ fun report => (concludeProbe report).bind fun _ => discreet
  · exact Settles.bind (transition nofun) fun _ => discreet

theorem start : Settles Console.start :=
  behind _ fun _ => checkStatus

/-- Until a visit has brought it about that the session is not shown as being checked, the rest of the
task owes that. -/
theorem advanceThrough {t : ConsoleTask α} (settles : Settles t) (waits : Nat) (c : Console) :
    Settles (t.advanceThrough waits c).2 ∨
      ((t.advanceThrough waits c).1.session.status ≠ .checking ∧
        Discreet (t.advanceThrough waits c).2) := by
  refine Task.advanceBy_keeps
    (fun (c : Console) t => Settles t ∨ (c.session.status ≠ .checking ∧ Discreet t))
    ?_ ?_ (Or.inl settles) _
  · rintro c update next ((further | ⟨settled, discreet⟩) | ⟨settled, discreet⟩)
    · exact Or.inl (further c)
    · exact Or.inr ⟨settled c, discreet c⟩
    · exact Or.inr ⟨fun checked => settled (discreet.1 c checked), discreet.2 c⟩
  · exact fun _ _ _ held => held

end Settles

def Action.probes : Action → Bool
  | .start | .checkStatus => true
  | _ => false

theorem Action.settles_or_discreet (action : Action) :
    (action.probes = true ∧ Settles action.whole) ∨ Discreet action.whole := by
  have telling {α : Type} {wrap : α → Outcome} {t : ConsoleTask α} (discreet : Discreet t) :
      Discreet (telling wrap t) :=
    discreet.bind fun _ => trivial
  have forgotten : Discreet forget := .of_aloof .forget
  cases action with
  | start => exact Or.inl ⟨rfl, Settles.start.bind fun _ => trivial⟩
  | checkStatus => exact Or.inl ⟨rfl, Settles.checkStatus.bind fun _ => trivial⟩
  | connect forgetting credentials =>
    have opened := (Tends.openSession credentials).discreet
    cases forgetting with
    | true =>
      refine Or.inr (telling (opened.bind fun granted => ?_))
      cases granted with
      | error e => trivial
      | ok grant => exact forgotten.bind fun _ => trivial
    | false => exact Or.inr (telling opened)
  | disconnect forgetting =>
    have closed := Tends.closeSession.discreet
    cases forgetting with
    | true => exact Or.inr (telling (closed.bind fun _ => forgotten.bind fun _ => trivial))
    | false => exact Or.inr (telling closed)
  | selectedRows policy => exact Or.inr (telling (.of_aloof (.of_work (.selectedRows policy))))
  | operate operation =>
    exact Or.inr ((Discreet.of_aloof (.of_work (.operate operation))).bind fun _ => trivial)
  | dropTable table confirmed =>
    exact Or.inr ((Discreet.of_aloof (.of_work (StoreWork.dropTable _ _).returning)).bind fun _ => trivial)
  | alterTable table change confirmed =>
    exact Or.inr ((Discreet.of_aloof (.of_work (StoreWork.alterTable _ _ _).returning)).bind
      fun _ => trivial)
  | executeSql request confirmed =>
    exact Or.inr ((Discreet.of_aloof (.of_work (StoreWork.executeSql _ _).returning)).bind fun _ => trivial)

namespace Life

variable {E : Type} (r : Life E)

/-- What was begun there is a check of the session, by itself or on start. -/
def Probes (begun : Nat) : Prop :=
  ∃ action, r.does begun = .begin action ∧ action.probes = true

/-- Every check of the session that has been begun has come to its end. -/
def Resolved (n : Nat) : Prop :=
  ∀ begun, begun < n → r.Probes begun → ∃ outcome, r.returned? begun n = some outcome

/-- What is left of a task: it leaves the session alone in this, or it is a check that still owes. -/
def Owing (n : Nat) (name : String) (t : ConsoleTask (Option Outcome)) : Prop :=
  Discreet t ∨ (Settles t ∧ ∃ begun, begun < n ∧ r.Probes begun ∧ name = begun.repr)

/-- Some check still owes it that the session is no longer shown as being checked. -/
def Owed (n : Nat) : Prop :=
  ∃ begun, begun < n ∧ r.Probes begun ∧
    (r.history.pool n).AllLeft fun name t => name = begun.repr → Settles t

variable {r} {n : Nat}

theorem owing (r : Life E) (n : Nat) : (r.history.pool n).AllLeft (r.Owing n) := by
  induction n with
  | zero => exact .init _ _
  | succ n ih =>
    refine History.allLeft_succ ih ?_ ?_ ?_ ?_
    · rintro name t (discreet | ⟨settles, begun, before, probes, named⟩)
      · exact Or.inl discreet
      · exact Or.inr ⟨settles, begun, Nat.lt_succ_of_lt before, probes, named⟩
    · intro t begins
      obtain ⟨action, does, rfl⟩ := exists_action_of_begin begins
      rcases action.settles_or_discreet with ⟨probes, settles⟩ | discreet
      · exact Or.inr ⟨settles, n, Nat.lt_succ_self n, ⟨action, does, probes⟩, rfl⟩
      · exact Or.inl discreet
    · intro place waits name t _ _ owing
      have ran : r.Owing (n + 1) name (t.advanceThrough waits (r.history.state n)).2 := by
        rcases owing with discreet | ⟨settles, begun, before, probes, named⟩
        · exact Or.inl (discreet.advanceThrough waits _).2
        · rcases settles.advanceThrough waits (r.history.state n) with further | ⟨_, discreet⟩
          · exact Or.inr ⟨further, begun, Nat.lt_succ_of_lt before, probes, named⟩
          · exact Or.inl discreet
      refine .of_holds ran (fun _ _ reply owing _ => ?_) fun _ _ owing => ?_
      · exact owing.imp (fun discreet => discreet reply) fun ⟨settles, known⟩ =>
          ⟨settles reply, known⟩
      · exact owing.imp id id
    · intro c t among
      obtain ⟨f, _, _, rfl⟩ := exists_flying_of_started among
      exact Or.inl (.of_aloof (.fly _ f))

/-- A step that is no visit to a check that owes does not bring it about that the session is shown as
being checked. -/
theorem checking_of_succ (quiet : ∀ name t, r.Runs n name t → Discreet t)
    (checked : (r.console (n + 1)).session.status = .checking) :
    (r.console n).session.status = .checking := by
  by_cases runs : ∃ name t, r.Runs n name t
  · obtain ⟨name, t, place, waits, happens, found⟩ := runs
    have discreet := quiet name t ⟨place, waits, happens, found⟩
    rw [console, History.state_succ_of_visit happens found] at checked
    exact (discreet.advanceThrough waits _).1 checked
  · by_cases drifts : ∃ f, r.history.happens n = .drift f
    · obtain ⟨f, drifts⟩ := drifts
      rw [console, History.state_succ_of_drift drifts,
        Doing.session_of_drift _ drifts] at checked
      exact checked
    · rw [console, History.state_succ_of_still (fun name t run => runs ⟨name, t, run⟩)
        fun f drift => drifts ⟨f, drift⟩] at checked
      exact checked

/-- A visit to a check that owes leaves it owing, unless the session is no longer shown as being
checked. -/
theorem settles_of_visit {place waits : Nat} {name : String} {t : ConsoleTask (Option Outcome)}
    (settles : Settles t) (happens : r.history.happens n = .visit place waits)
    (found : (r.history.pool n).threads[place]? = some (name, .ready t))
    (checked : (r.console (n + 1)).session.status = .checking)
    (answers : (Console → Request) → Reply → Prop) :
    (t.advanceThrough waits (r.history.state n)).2.Resumes answers Settles := by
  have further : Settles (t.advanceThrough waits (r.history.state n)).2 := by
    refine (settles.advanceThrough waits _).resolve_right fun ⟨settled, _⟩ => settled ?_
    rw [console, History.state_succ_of_visit happens found] at checked
    exact checked
  exact .of_holds further (fun _ _ reply every _ => every reply) fun _ _ => id

/-- Where the session is shown as being checked, some check still owes. -/
theorem owed_of_checking (fresh : r.start.Fresh) (n : Nat)
    (checked : (r.console n).session.status = .checking) : r.Owed n := by
  induction n with
  | zero =>
    have initial : (r.console 0).session = .initial := fresh.session
    rw [initial] at checked
    cases checked
  | succ n ih =>
    by_cases quiet : ∀ name t, r.Runs n name t → Discreet t
    · obtain ⟨begun, before, ⟨action, does, probes⟩, left⟩ := ih (checking_of_succ quiet checked)
      refine ⟨begun, Nat.lt_succ_of_lt before, ⟨action, does, probes⟩, ?_⟩
      refine History.left_succ (happens_of_begin does) before left ?_ fun _ _ => id
      exact fun place waits t happens found settles =>
        settles_of_visit settles happens found checked _
    · push Not at quiet
      obtain ⟨name, t, ⟨place, waits, happens, found⟩, apart⟩ := quiet
      obtain discreet | ⟨settles, begun, before, ⟨action, does, probes⟩, rfl⟩ :=
        r.owing n name _ (List.mem_of_getElem? found)
      · exact absurd discreet apart
      · refine ⟨begun, Nat.lt_succ_of_lt before, ⟨action, does, probes⟩, ?_⟩
        refine History.left_succ (happens_of_begin does) before
          (r.owing n |>.mono fun _ _ _ _ => trivial) ?_ ?_
        · intro place' waits' t' happens' found' _
          cases happens.symm.trans happens'
          cases found.symm.trans found'
          exact settles_of_visit settles happens found checked _
        · exact fun none => absurd ⟨place, waits, happens, found⟩ (none t)

/-- The sessions that observers see, from the creation of the console on and whatever is done with it:
no two in a row are the same, none but the first is yet to be looked into, an open session is not
followed by one that is being checked, and only an open one tells of a database. Where every check has
come to its end, the session is not shown as being checked. -/
theorem sessions_legal (r : Life E) (fresh : r.start.Fresh) (n : Nat) :
    Legal (r.console n).seen ∧ (r.console n).seen.head? = some (r.console n).session ∧
      (r.Resolved n → (r.console n).session.status ≠ .checking) := by
  have shows : (r.console n).Shows := fresh.shows.deeds (r.deeds (Nat.zero_le n))
  refine ⟨shows.legal, shows.current, fun resolved checked => ?_⟩
  obtain ⟨begun, before, probes, left⟩ := owed_of_checking fresh n checked
  obtain ⟨outcome, returned⟩ := resolved begun before probes
  exact left _ _ (Pool.mem_of_result? returned) rfl

/-- A session is resumed on start, while another check waits for its turn. -/
def resumedTwice : Life Unit where
  submit := gatedBackend
    (agreeing "\x7b\"connected\":true,\"database\":\"a.db\",\"db_type\":\"sqlite\"\x7d")
    (agreeing "null")
  start := tokenConsole .initial
  world := ()
  does
    | 0 => .begin .start
    | 1 => .begin .checkStatus
    | 2 => .visit 0 1
    | 3 => .visit 1 1
    | 4 => .release "late"
    | 5 => .visit 0 0
    | 6 => .visit 1 1
    | 7 => .visit 1 0
    | _ => .tidy

/-- The check that comes second while the session is open is not shown. -/
theorem resumedTwice_legal : resumedTwice.start.Fresh ∧ resumedTwice.Resolved 8 ∧
    (resumedTwice.console 8).seen =
      [.connected (some "a.db") (some .sqlite), .plain .checking, .initial] ∧
    Legal (resumedTwice.console 8).seen ∧
    (resumedTwice.console 8).seen.head? = some (resumedTwice.console 8).session ∧
    (resumedTwice.console 8).session.status ≠ .checking := by
  have fresh : resumedTwice.start.Fresh := ⟨rfl, rfl, _, rfl⟩
  have resolved : resumedTwice.Resolved 8 := by
    rintro begun before ⟨action, does, probes⟩
    match begun with
    | 0 => exact Option.isSome_iff_exists.mp (by decide +kernel)
    | 1 => exact Option.isSome_iff_exists.mp (by decide +kernel)
    | 2 | 3 | 4 | 5 | 6 | 7 | _ + 8 => cases does
  obtain ⟨legal, current, settled⟩ := sessions_legal resumedTwice fresh 8
  exact ⟨fresh, resolved, by decide +kernel, legal, current, settled resolved⟩

end Life

end DbConsole.Console

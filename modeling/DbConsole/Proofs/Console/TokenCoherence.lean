import DbConsole.Proofs.Console.SessionStep

/-!
Whether the open session is that of the stored token. It is as long as no check of the session takes
in that a database is open when its token is no longer the stored one; the check does not look, and
then shows what was reported for another token. And how the token that credentials have earned is lost:
only what closes the session and a check that takes in that nothing is open ever take a token away; the
check does so whatever token is stored by then.
-/
set_option autoImplicit false

namespace DbConsole.Console

/-- The exchange tells what is open under the token: it answers the credentials that earn the token,
or a check that was sent with it. -/
inductive Tells (token : String) (database : Option String) (engine : Option Engine) :
    Request × Reply → Prop
  | granted (credentials : Credentials) (c : Console) (reply : Reply) (grant : Grant)
    (read : reply.grant = .ok grant) (issued : grant.token = token)
    (named : database = some grant.database) (kind : engine = some grant.engine) :
    Tells token database engine (connectRequest credentials c, reply)
  | reported (c : Console) (reply : Reply) (report : StatusReport)
    (read : reply.report = .ok report) (sent : c.tokens.get? = some token)
    (open_ : report.connected = true) (named : database = report.database)
    (kind : engine = report.engine) : Tells token database engine (c.statusRequest, reply)

theorem Tells.sent_or_granted {token : String} {database : Option String} {engine : Option Engine}
    {x : Request × Reply} (tells : Tells token database engine x) :
    x.1.token = some token ∨ ∃ grant, x.2.grant = .ok grant ∧ database = some grant.database := by
  cases tells with
  | granted credentials c reply grant read issued named kind => exact Or.inr ⟨grant, read, named⟩
  | reported c reply report read sent open_ named kind => exact Or.inl sent

namespace Course

variable {E : Type} (r : Course E)

/-- The backend has told what is open under the token. -/
def Told (n : Nat) (token : String) (database : Option String) (engine : Option Engine) : Prop :=
  ∃ sent x, sent < n ∧ r.exchange? sent = some x ∧ Tells token database engine x

/-- If a session is open, a token is stored, and what is open is what was told of this token. -/
def Coherent (n : Nat) : Prop :=
  (r.console n).session.isConnected = true → ∃ token, r.token n = some token ∧
    r.Told n token (r.console n).session.database (r.console n).session.engine

variable {r} {n : Nat}

theorem Told.later {token : String} {database : Option String} {engine : Option Engine} {m : Nat}
    (told : r.Told n token database engine) (le : n ≤ m) : r.Told m token database engine := by
  obtain ⟨sent, x, before, tells⟩ := told
  exact ⟨sent, x, Nat.lt_of_lt_of_le before le, tells⟩

/-- What a check has received is told of the token that it was sent with. -/
theorem Lands.told {begun : Nat} {token : String} {reply : Reply} {report : StatusReport}
    (lands : r.Lands begun n token reply) (read : reply.report = .ok report)
    (open_ : report.connected = true) : r.Told n token report.database report.engine := by
  obtain ⟨c, known, sent, before, _, asked⟩ := lands.heard
  exact ⟨sent, _, before, asked, .reported c reply report read known open_ rfl rfl⟩

theorem Grants.told {begun : Nat} {forgetting : Bool} {grant : Grant}
    (grants : r.Grants begun n forgetting grant) :
    r.Told n grant.token (some grant.database) (some grant.engine) := by
  obtain ⟨credentials, c, reply, _, ⟨sent, before, _, asked⟩, read, _⟩ := grants.granted
  exact ⟨sent, _, before, asked, .granted credentials c reply grant read rfl rfl rfl⟩

theorem Told.of_succ {token : String} {database : Option String} {engine : Option Engine}
    (told : r.Told (n + 1) token database engine) (silent : r.exchange? n = none) :
    r.Told n token database engine := by
  obtain ⟨sent, x, before, asked, tells⟩ := told
  refine ⟨sent, x, ?_, asked, tells⟩
  rcases Nat.lt_succ_iff_lt_or_eq.mp before with earlier | rfl
  · exact earlier
  · rw [silent] at asked
    cases asked

/-- Whatever happens keeps the session that of the stored token, unless a check takes in that a
database is open when its token is no longer the stored one. -/
theorem Coherent.succ (memory : ∃ token?, r.tokens = .memory token?) (coherent : r.Coherent n)
    (overtaken : ∀ begun sent reply report, r.Lands begun n sent reply →
      reply.report = .ok report → report.connected = true → r.token n ≠ some sent →
        ∃ stored, r.token n = some stored ∧ r.Told n stored report.database report.engine) :
    r.Coherent (n + 1) := by
  intro connected
  cases opening connected with
  | kept session tokens =>
    rw [session] at connected ⊢
    obtain ⟨token, stored, told⟩ := coherent connected
    refine ⟨token, ?_, told.later (Nat.le_succ n)⟩
    rw [Course.token, tokens]
    exact stored
  | found begun sent reply report lands answer open_ tokens session =>
    rw [session, Course.token, tokens]
    by_cases own : r.token n = some sent
    · exact ⟨sent, own, (lands.told answer open_).later (Nat.le_succ n)⟩
    · obtain ⟨stored, same, told⟩ := overtaken begun sent reply report lands answer open_ own
      exact ⟨stored, same, told.later (Nat.le_succ n)⟩
  | granted begun forgetting grant grants session =>
    rw [session]
    exact ⟨grant.token, token_of_grants memory grants, grants.told.later (Nat.le_succ n)⟩

/-- The open session is that of the stored token at every point of a course just if the database
that a check takes in when its token is no longer the stored one happens to be the one that was told
of the stored token. -/
theorem coherent_iff_none_overtaken (memory : ∃ token?, r.tokens = .memory token?) :
    (∀ n, r.Coherent n) ↔ ∀ begun n sent reply report, r.Lands begun n sent reply →
      reply.report = .ok report → report.connected = true → r.token n ≠ some sent →
        ∃ stored, r.token n = some stored ∧ r.Told n stored report.database report.engine := by
  constructor
  · intro coherent begun n sent reply report lands answer open_ _
    obtain ⟨concludes, silent⟩ := lands.concludes
    obtain ⟨tokens, session⟩ := concludes.of_connected answer open_
    have behind := coherent (n + 1)
    rw [Coherent, session, token, tokens] at behind
    obtain ⟨stored, same, told⟩ := behind rfl
    exact ⟨stored, same, told.of_succ silent⟩
  · intro overtaken n
    induction n with
    | zero =>
      intro connected
      cases connected
    | succ n ih => exact ih.succ memory fun begun => overtaken begun n

/-! ### A check that is resumed, and one that is overtaken -/

/-- A backend that opens a database to whom presents credentials; its reply to a check is late. -/
def lateBackend (report : String) (_ : Unit) (request : Request) : Unit × Answer Reply :=
  let reply (data : String) : Reply :=
    .answered ⟨200⟩ (some ("\x7b\"success\":true,\"data\":" ++ data ++ "\x7d"))
  match request.method with
  | .get => ((), .behind "late" (reply report))
  | _ => ((), .now (reply
      "\x7b\"token\":\"new\",\"database\":\"new.db\",\"db_type\":\"sqlite\"\x7d"))

/-- A course with a token from before, the backend's reports being given. -/
def withToken (report : String) (happens : Nat → Happening Unit) : Course Unit where
  submit := lateBackend report
  base := ⟨"http", "", none, some (.named "db"), none, .segments [], none, none⟩
  timeout := none
  tokens := .memory (some "old")
  settings := ⟨0, 0, 0, 0⟩
  world := ()
  happens := happens

/-- The report that the database of before is open. -/
def openReport : String :=
  "\x7b\"connected\":true,\"database\":\"old.db\",\"db_type\":\"sqlite\"\x7d"

/-- The session of before is resumed. -/
def resumed : Course Unit :=
  withToken openReport fun
    | 0 => .begin .start
    | 1 => .visit 0 1
    | 2 => .release "late"
    | 3 => .visit 0 0
    | _ => .tidy

theorem resumed_coherent : (∀ n, resumed.Coherent n) ∧
    (resumed.console 4).session = .connected (some "old.db") (some .sqlite) := by
  have settled (n : Nat) : resumed.token (n + 4) = some "old" := by
    induction n with
    | zero => decide +kernel
    | succ n ih => exact ih
  have kept (n : Nat) : resumed.token n = some "old" := by
    match n with
    | 0 | 1 | 2 | 3 => decide +kernel
    | n + 4 => exact settled n
  have sent (n : Nat) : (resumed.exchange? n).all fun x => x.1.token == some "old" := by
    match n with
    | 0 | 1 | 2 | 3 => decide +kernel
    | n + 4 => rfl
  refine ⟨(coherent_iff_none_overtaken ⟨_, rfl⟩).mpr ?_, by decide +kernel⟩
  intro begun n token reply report lands _ _ apart
  obtain ⟨c, known, at_, _, _, asked⟩ := lands.heard
  have own := sent at_
  rw [asked] at own
  have same : some token = some "old" := known.symm.trans (beq_iff_eq.mp own)
  exact absurd ((kept n).trans same.symm) apart

/-- Credentials earn a new token while a check with the token of before is on its way. -/
def overtaken (report : String) : Course Unit :=
  withToken report fun
    | 0 => .begin .checkStatus
    | 1 => .visit 0 1
    | 2 => .begin (.connect false (.file "new.db"))
    | 3 => .visit 1 0
    | 4 => .visit 1 0
    | 5 => .release "late"
    | 6 => .visit 0 0
    | _ => .tidy

/-- The session shows the database of before with the token of the new one. -/
theorem overtaken_incoherent :
    ((overtaken openReport).console 5).session = .connected (some "new.db") (some .sqlite) ∧
      ((overtaken openReport).console 7).session = .connected (some "old.db") (some .sqlite) ∧
      (overtaken openReport).token 7 = some "new" ∧ ¬ (overtaken openReport).Coherent 7 := by
  have session : ((overtaken openReport).console 7).session =
      .connected (some "old.db") (some .sqlite) := by decide +kernel
  have stored : (overtaken openReport).token 7 = some "new" := by decide +kernel
  refine ⟨by decide +kernel, session, stored, fun coherent => ?_⟩
  rw [Coherent, session, stored] at coherent
  obtain ⟨token, same, at_, x, before, asked, tells⟩ := coherent rfl
  cases same
  have others : ∀ n ∈ List.range 7, ((overtaken openReport).exchange? n).all fun x =>
      x.1.token != some "new" && x.2.grant.toOption.all fun g => g.database != "old.db" := by
    decide +kernel
  have other := others at_ (List.mem_range.mpr before)
  rw [asked, Option.all_some, Bool.and_eq_true, bne_iff_ne] at other
  rcases tells.sent_or_granted with sent | ⟨grant, read, named⟩
  · exact other.1 sent
  · have apart := other.2
    rw [read] at apart
    exact bne_iff_ne.mp apart (Option.some.inj named).symm

end Course

end DbConsole.Console

namespace DbConsole.Console.Course

variable {E : Type} (r : Course E)

/-- Credentials have earned the token, and it has been stored ever since. -/
def Issued (n : Nat) (token : String) : Prop :=
  ∃ begun at_ forgetting grant, at_ < n ∧ r.Grants begun at_ forgetting grant ∧
    grant.token = token ∧ ∀ m, at_ < m → m ≤ n → r.token m = some token

/-- A token that credentials have earned is taken away, or the session that is open with it ends. -/
def Loses (n : Nat) (token : String) : Prop :=
  r.Issued n token ∧ (r.token (n + 1) = none ∨
    ((r.console n).session.isConnected = true ∧
      (r.console (n + 1)).session.status = .disconnected))

variable {r} {n : Nat} {token : String}

theorem Issued.stored (issued : r.Issued n token) : r.token n = some token := by
  obtain ⟨_, at_, _, _, before, _, _, since⟩ := issued
  exact since n before (Nat.le_refl n)

/-- What keeps the token, or brings another one, loses one only where it ends the open session. -/
theorem Loses.ends (loses : r.Loses n token) {later : Option String}
    (same : r.token (n + 1) = later) (some_ : later ≠ none) :
    (r.console n).session.isConnected = true ∧
      (r.console (n + 1)).session.status = .disconnected :=
  loses.2.resolve_left fun gone => some_ (same.symm.trans gone)

/-- A check that takes in that a database is open loses no token. -/
theorem Lands.not_connects {begun : Nat} {sent : String} {reply : Reply}
    (lands : r.Lands begun n sent reply) (loses : r.Loses n token) : ¬ Connects reply.report := by
  rintro ⟨report, answer, open_⟩
  obtain ⟨tokens, session⟩ := lands.concludes.1.of_connected answer open_
  have same : r.token (n + 1) = some token :=
    (congrArg TokenStore.get? tokens).trans loses.1.stored
  have ended := (loses.ends same (Option.some_ne_none _)).2
  rw [session] at ended
  cases ended

/-- Only what closes the session, and a check that takes in that nothing is open, lose a token. -/
theorem Loses.cases (memory : ∃ token?, r.tokens = .memory token?) (loses : r.Loses n token) :
    (∃ begun forgetting, r.Closes begun n forgetting) ∨
      ∃ begun sent reply, r.Lands begun n sent reply ∧ ¬ Connects reply.report := by
  have stored := loses.1.stored
  cases r.step n with
  | mild mild =>
    have same : r.token (n + 1) = some token := (congrArg TokenStore.get? mild.tokens).trans stored
    obtain ⟨connected, ended⟩ := loses.ends same (Option.some_ne_none _)
    rcases mild.session with kept | checking | ⟨_, none⟩
    · rw [kept] at ended
      rw [Session.isConnected, ended] at connected
      cases connected
    · rw [checking] at ended
      cases ended
    · rw [Course.token] at stored
      rw [TokenStore.has, stored] at none
      cases none
  | lands begun sent reply lands _ =>
    exact Or.inr ⟨begun, sent, reply, lands, lands.not_connects loses⟩
  | grants begun forgetting grant grants session =>
    have ended := (loses.ends (token_of_grants memory grants) (Option.some_ne_none _)).2
    rw [session] at ended
    cases ended
  | closes begun forgetting closes tokens session => exact Or.inl ⟨begun, forgetting, closes⟩

end DbConsole.Console.Course

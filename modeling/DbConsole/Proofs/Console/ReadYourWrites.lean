import DbConsole.Proofs.Console.Reading

/-!
Read your writes. What a read returns that is started when a change has succeeded was answered to a
request that was sent when the response to the change had been received, for every key that the
change can have touched and whatever was being fetched at the time.
-/
set_option autoImplicit false

namespace DbConsole.Console

namespace Interleaving

variable {E : Type} (r : Interleaving E)

/-- The requests that have been sent since a point, with the replies to them. -/
def heard (since n : Nat) : Set (Request × Reply) :=
  Discipline.askedSince r.exchange? since n

/-! ### Promises over a run -/

section Promises

variable {key : Key} {least : Nat} {good : Set (Request × Reply) → Payload → Prop}
  {heeds : Heeds key good} {reader : Option String} {named : reader ≠ some ""}
  {post : Set (Flight Unit) → Set (Request × Reply) → Option (Except Error Returned) → Prop}
  {lasting : Task.Lasting post}

theorem kept_succ {n : Nat} {g : Set (Flight Unit)} {heard : Set (Request × Reply)}
    (kept : (promising r.submit heeds least reader named post lasting).Kept g heard (r.pool n))
    (reads : ∀ operation, r.move n = .start operation → reader = some n.repr →
      ∀ g heard, operation.task.Meets (Promised key least good) post g heard) :
    ∃ g', g ≤ g' ∧ (promising r.submit heeds least reader named post lasting).Kept g'
      (heard ∪ {x | r.exchange? n = some x}) (r.pool (n + 1)) := by
  rw [pool_succ, exchange?]
  cases moves : r.move n with
  | start operation =>
    refine ⟨g, le_rfl, .hear ⟨kept.state, kept.tasks.spawn _ _ ⟨fun mine => ?_, fun _ => ?_⟩⟩
      Set.subset_union_left⟩
    · exact reads operation moves mine g heard
    · exact Or.inl operation.civil
  | turn place steps through => exact kept.turn place steps through
  | release gate =>
    exact ⟨g, le_rfl, .hear ⟨kept.state, kept.tasks.release gate⟩ Set.subset_union_left⟩
  | wake time => exact ⟨g, le_rfl, .hear ⟨kept.state, kept.tasks.wake time⟩ Set.subset_union_left⟩
  | cancel name =>
    exact ⟨g, le_rfl, .hear ⟨kept.state, kept.tasks.cancel name⟩ Set.subset_union_left⟩
  | tidy => exact ⟨g, le_rfl, .hear ⟨kept.state, kept.tasks.tidy⟩ Set.subset_union_left⟩
  | collect now =>
    obtain ⟨g', more, promised⟩ := Cache.Promise.event kept.state (.collect now) rfl
    exact ⟨g', more, .hear (kept.withState more _ promised) Set.subset_union_left⟩
  | clear =>
    obtain ⟨g', more, promised⟩ := Cache.Promise.event kept.state .clear rfl
    exact ⟨g', more, .hear (kept.withState more _ promised) Set.subset_union_left⟩
  | drift change =>
    exact ⟨g, le_rfl, .hear (kept.withState le_rfl _ kept.state) Set.subset_union_left⟩
  | outside change => exact ⟨g, le_rfl, .hear ⟨kept.state, kept.tasks⟩ Set.subset_union_left⟩

theorem kept_from {since n : Nat} (le : since ≤ n) {g : Set (Flight Unit)}
    (kept : (promising r.submit heeds least reader named post lasting).Kept g ∅ (r.pool since))
    (reads : ∀ k operation, since ≤ k → r.move k = .start operation → reader = some k.repr →
      ∀ g heard, operation.task.Meets (Promised key least good) post g heard) :
    ∃ g', (promising r.submit heeds least reader named post lasting).Kept g' (r.heard since n)
      (r.pool n) :=
  kept.onwards le fun k _ _ behind kept =>
    r.kept_succ kept fun operation => reads k operation behind

end Promises

theorem kept_baseline (key : Key) (n : Nat) :
    ∃ g, (baseline r.submit key).Kept g (r.heard 0 n) (r.pool n) := by
  have start : (baseline r.submit key).Kept ∅ ∅ (r.pool 0) :=
    ⟨.of_none (.empty _) rfl rfl, .init _ _⟩
  exact r.kept_from (Nat.zero_le n) start nofun

/-- Nobody has the name of an operation that is yet to start. -/
theorem absent (reader n : Nat) (le : n ≤ reader) :
    (r.pool n).AllLeft fun name _ => name ≠ reader.repr := by
  induction n with
  | zero => exact .init _ _
  | succ n ih =>
    have all := ih (Nat.le_of_succ_le le)
    refine r.allLeft_succ n all ?_ ?_ ?_ ?_ ?_
    · exact fun _ _ same => absurd (Nat.repr_injective same) (Nat.ne_of_lt le)
    · exact fun place steps through _ name t found => all name _ (List.mem_of_getElem? found)
    · exact fun _ _ _ same => Nat.repr_ne_empty same.symm
    · exact fun _ _ _ _ apart => apart
    · exact fun _ _ _ apart => apart

theorem exists_step_of_not (holds : Nat → Prop) {n : Nat} (first : holds 0) (last : ¬ holds n) :
    ∃ k, k < n ∧ holds k ∧ ¬ holds (k + 1) := by
  induction n with
  | zero => exact absurd first last
  | succ n ih =>
    by_cases still : holds n
    · exact ⟨n, Nat.lt_succ_self n, still, last⟩
    · obtain ⟨k, before, step⟩ := ih still
      exact ⟨k, Nat.lt_succ_of_lt before, step⟩

/-- The operation has received the replies to all that it asks. -/
def Received (operation n : Nat) : Prop :=
  ∃ t, (operation.repr, .ready t) ∈ (r.pool n).threads ∧ Silent t

/-- The point at which a change that has succeeded has marked what it has touched. -/
theorem exists_sealed {change : Change} {writer n : Nat} {changed : Returned}
    (writes : r.move writer = .start (.change change))
    (wrote : r.returned? writer n = some (.ok changed)) :
    ∃ received, received < n ∧ r.Received writer received ∧
      ∀ key, change.plan.covers key → Forgotten key (r.pool (received + 1)).state.cache := by
  have unsealed : Unsealed change.plan writer.repr (r.pool 0) := .init _ _
  have sealed : ¬ Unsealed change.plan writer.repr (r.pool n) := not_unsealed_of_returned wrote
  obtain ⟨received, before, passed, opened⟩ := exists_step_of_not
    (fun k => Unsealed change.plan writer.repr (r.pool k)) unsealed sealed
  obtain ⟨g, kept⟩ := r.kept_baseline .tables received
  exact ⟨received, before, r.sealing_turn writes kept.state.ledger passed opened⟩

/-- Where nothing of a key can be served or joined, a promise about it begins. -/
theorem kept_of_forgotten {key : Key} {reader : Nat} (read : Read) {g : Set (Flight Unit)}
    {heard : Set (Request × Reply)} {p : Operations E}
    (kept : (baseline r.submit key).Kept g heard p) (forgotten : Forgotten key p.state.cache)
    (absent : p.AllLeft fun name _ => name ≠ reader.repr) :
    (assuring r.submit key p.state.cache.nextFlight reader read).Kept g ∅ p :=
  assured_of_forgotten read kept forgotten absent

/-- A read that is started when a change has succeeded returns what was answered to a request that
was sent when the change had received its response. The backend may mark each of its replies, so
it is from that reply that the payload comes. -/
theorem read_your_writes {change : Change} {read : Read} {key : Key} {writer reader n m : Nat}
    {changed returned : Returned} (writes : r.move writer = .start (.change change))
    (wrote : r.returned? writer n = some (.ok changed)) (covered : change.plan.covers key)
    (reads : r.move reader = .start (.read read)) (readsKey : read.Reads key)
    (behind : n ≤ reader) (answered : r.returned? reader m = some (.ok returned)) :
    ∃ v, read.Shows key v returned ∧
      ∃ received sent request reply, received < n ∧ r.Received writer received ∧
        received < sent ∧ sent < m ∧ r.exchange? sent = some (request, reply) ∧
          Gives key request reply v := by
  obtain ⟨received, before, hears, forgets⟩ := r.exists_sealed writes wrote
  obtain ⟨g, kept⟩ := r.kept_baseline key (received + 1)
  have begun := r.kept_of_forgotten read kept (forgets key covered)
    (r.absent reader (received + 1) (by omega))
  have ended := Pool.mem_of_result? answered
  have reached : received + 1 ≤ m := by
    by_contra early
    exact r.absent reader m (by omega) _ _ ended rfl
  obtain ⟨g', kept'⟩ := r.kept_from reached begun fun k operation _ starts mine => by
    cases Nat.repr_injective (Option.some.inj mine)
    rw [reads] at starts
    cases starts
    exact meets_read (heeds_answered key) read readsKey
  obtain ⟨v, shows, x, ⟨sent, after, early, same⟩, gives⟩ :=
    (kept'.tasks _ _ ended).1 rfl returned rfl
  exact ⟨v, shows, received, sent, x.1, x.2, before, hears, after, early, same, gives⟩

/-- A backend that is told to drop its one table; what it listed before comes late. -/
def droppingBackend (dropped : Bool) (request : Request) : Bool × Answer Reply :=
  let reply (data : String) : Reply :=
    .answered ⟨200⟩ (some ("\x7b\"success\":true,\"data\":" ++ data ++ "\x7d"))
  match request.method with
  | .get =>
    if dropped then (dropped, .now (reply "\x7b\"tables\":[]\x7d"))
    else
      (dropped, .behind "late"
        (reply "\x7b\"tables\":[\x7b\"name\":\"t\",\"table_type\":\"table\"\x7d]\x7d"))
  | _ => (true, .now (reply "\x7b\"message\":\"\",\"table\":\"t\"\x7d"))

/-- A table is dropped while a list of the tables is on its way that still holds it; another read
of the list is started behind the drop, and then the old one comes in. -/
def droppedMeanwhile : Interleaving Bool where
  submit := droppingBackend
  console :=
    { base := ⟨"http", "", none, some (.named "db"), none, .segments [], none, none⟩
      timeout := none
      tokens := .memory none
      cache := .empty ⟨0, 0, 0, 0⟩
      session := .initial
      published := []
      probing := false
      workspace := .initial
      collecting := false
      now := 0 }
  world := false
  settings := ⟨1000, 1000, 0, 0⟩
  move
    | 0 => .start (.read (.one .tables .cached))
    | 1 => .turn 0 9 true
    | 2 => .turn 1 9 true
    | 3 => .start (.change (.dropTable "t" true))
    | 4 => .turn 2 9 true
    | 5 => .turn 2 9 true
    | 6 => .start (.read (.one .tables .cached))
    | 7 => .turn 3 9 true
    | 8 => .release "late"
    | 9 => .turn 1 9 true
    | 10 => .turn 4 9 true
    | 11 => .turn 4 9 true
    | 12 => .turn 3 9 true
    | _ => .tidy

theorem droppedMeanwhile_reads_the_drop :
    ∃ returned v, droppedMeanwhile.returned? 6 13 = some (.ok returned) ∧
      (Read.one .tables .cached).Shows .tables v returned ∧
        ∃ received sent request reply, received < 6 ∧ droppedMeanwhile.Received 3 received ∧
          received < sent ∧ sent < 13 ∧
            droppedMeanwhile.exchange? sent = some (request, reply) ∧
              Gives .tables request reply v := by
  have dropped : (droppedMeanwhile.returned? 3 6).any (·.toOption.isSome) := by decide +kernel
  have listed : (droppedMeanwhile.returned? 6 13).any (·.toOption.isSome) := by decide +kernel
  obtain ⟨changed, wrote⟩ := exists_returned_of_any dropped
  obtain ⟨returned, answered⟩ := exists_returned_of_any listed
  have starts : droppedMeanwhile.move 3 = .start (.change (.dropTable "t" true)) := rfl
  have reads : droppedMeanwhile.move 6 = .start (.read (.one .tables .cached)) := rfl
  have covered : (Change.dropTable "t" true).plan.covers .tables := by decide
  obtain ⟨v, shows, facts⟩ := droppedMeanwhile.read_your_writes starts wrote covered reads rfl
    (Nat.le_refl 6) answered
  exact ⟨returned, v, answered, shows, facts⟩

end Interleaving

end DbConsole.Console

import DbConsole.Proofs.Console.Conduct

/-!
How changes go about. Until the backend has agreed a change leaves the console alone, except that a
change of rows reads the columns of the table once; and from its first mark on it succeeds, whatever
happens.
-/
set_option autoImplicit false

namespace DbConsole.Console

variable {α β : Type}

/-- However the task goes on, its result is good. -/
def Ensures (ok : α → Prop) : ConsoleTask α → Prop
  | .done a => ok a
  | .act _ next => ∀ c, Ensures ok (next c)
  | .wait _ next => Ensures ok next
  | .call _ next => ∀ reply, Ensures ok (next reply)
  | .sleep _ next => Ensures ok next

/-- The console when the key has been read. -/
def reading (key : Key) (c : Console) : Console :=
  { c with cache := (c.cache.read c.now key .cached ()).1 }

/-- Until it is certain that its result is good, the task leaves the console alone, except that it
may read the key once. -/
def Cautious (ok : α → Prop) : ConsoleTask α → Option Key → Prop
  | .done _, _ => True
  | .act update next, key? =>
    ((∀ c, update c = c) ∧ ∀ c, Cautious ok (next c) key?) ∨
      (∃ key, key? = some key ∧ (∀ c, update c = reading key c) ∧
        ∀ c, Cautious ok (next c) none) ∨
      ∀ c, Ensures ok (next c)
  | .wait _ next, key? => Cautious ok next key?
  | .call _ next, key? => ∀ reply, Cautious ok (next reply) key?
  | .sleep _ next, key? => Cautious ok next key?

namespace Ensures

variable {ok : α → Prop} {ok' : β → Prop}

theorem bind {t : ConsoleTask α} {k : α → ConsoleTask β} (ensures : Ensures ok t)
    (rest : ∀ a, ok a → Ensures ok' (k a)) : Ensures ok' (t.bind k) := by
  induction t with
  | done a => exact rest a ensures
  | act update next ih => exact fun c => ih c (ensures c)
  | wait ready next ih => exact ih ensures
  | call question next ih => exact fun reply => ih reply (ensures reply)
  | sleep time next ih => exact ih ensures

/-- What comes before does not matter. -/
theorem behind (t : ConsoleTask α) {k : α → ConsoleTask β} (rest : ∀ a, Ensures ok' (k a)) :
    Ensures ok' (t.bind k) := by
  induction t with
  | done a => exact rest a
  | act update next ih => exact ih
  | wait ready next ih => exact ih
  | call question next ih => exact ih
  | sleep time next ih => exact ih

theorem advanceThrough {t : ConsoleTask α} (ensures : Ensures ok t) (waits : Nat)
    (c : Console) : Ensures ok (t.advanceThrough waits c).2 := by
  refine Task.advanceBy_keeps (fun _ t => Ensures ok t) ?_ ?_ ensures _
  · exact fun c _ _ ensures => ensures c
  · exact fun _ _ _ ensures => ensures

theorem cautious {t : ConsoleTask α} (ensures : Ensures ok t) (key? : Option Key) :
    Cautious ok t key? := by
  induction t with
  | done a => trivial
  | act update next ih => exact Or.inr (Or.inr ensures)
  | wait ready next ih => exact ih ensures
  | call question next ih => exact fun reply => ih reply (ensures reply)
  | sleep time next ih => exact ih ensures

end Ensures

namespace Cautious

variable {ok : α → Prop} {ok' : β → Prop} {key? : Option Key}

/-- Who reads nothing may read something. -/
theorem weaken {t : ConsoleTask α} (cautious : Cautious ok t none) : Cautious ok t key? := by
  induction t with
  | done a => trivial
  | act update next ih =>
    rcases cautious with ⟨quiet, rest⟩ | ⟨_, none_, _⟩ | ensures
    · exact Or.inl ⟨quiet, fun c => ih c (rest c)⟩
    · cases none_
    · exact Or.inr (Or.inr ensures)
  | wait ready next ih => exact ih cautious
  | call question next ih => exact fun reply => ih reply (cautious reply)
  | sleep time next ih => exact ih cautious

theorem bind {t : ConsoleTask α} {k : α → ConsoleTask β} (cautious : Cautious ok t key?)
    (rest : ∀ a, Cautious ok' (k a) none) (sure : ∀ a, ok a → Ensures ok' (k a)) :
    Cautious ok' (t.bind k) key? := by
  induction t generalizing key? with
  | done a => exact (rest a).weaken
  | act update next ih =>
    rcases cautious with ⟨quiet, further⟩ | ⟨key, same, reads, further⟩ | ensures
    · exact Or.inl ⟨quiet, fun c => ih c (further c)⟩
    · exact Or.inr (Or.inl ⟨key, same, reads, fun c => ih c (further c)⟩)
    · exact Or.inr (Or.inr fun c => (ensures c).bind sure)
  | wait ready next ih => exact ih cautious
  | call question next ih => exact fun reply => ih reply (cautious reply)
  | sleep time next ih => exact ih cautious

/-- What a visit does: it makes the success certain, or leaves the console alone, or reads the
key. -/
theorem advanceThrough {t : ConsoleTask α} (cautious : Cautious ok t key?) (waits : Nat)
    (c : Console) :
    Ensures ok (t.advanceThrough waits c).2 ∨
    (Cautious ok (t.advanceThrough waits c).2 key? ∧ (t.advanceThrough waits c).1 = c) ∨
    ∃ key, key? = some key ∧ Cautious ok (t.advanceThrough waits c).2 none ∧
      (t.advanceThrough waits c).1 = reading key c := by
  refine Task.advanceBy_keeps (fun (c' : Console) t => Ensures ok t ∨
    (Cautious ok t key? ∧ c' = c) ∨ ∃ key, key? = some key ∧ Cautious ok t none ∧
      c' = reading key c) ?_ ?_ (Or.inr (Or.inl ⟨cautious, rfl⟩)) _
  · rintro c' update next (ensures | ⟨cautious, same⟩ | ⟨key, isKey, cautious, same⟩)
    · exact Or.inl (ensures c')
    · rcases cautious with ⟨quiet, further⟩ | ⟨key, isKey, reads, further⟩ | ensures
      · exact Or.inr (Or.inl ⟨further c', (quiet c').trans same⟩)
      · exact Or.inr (Or.inr ⟨key, isKey, further c', (reads c').trans (congrArg _ same)⟩)
      · exact Or.inl (ensures c')
    · rcases cautious with ⟨quiet, further⟩ | ⟨_, none_, _⟩ | ensures
      · exact Or.inr (Or.inr ⟨key, isKey, further c', (quiet c').trans same⟩)
      · cases none_
      · exact Or.inl (ensures c')
  · exact fun _ _ _ held => held

/-! ### Parts of changes -/

theorem request {t : ConsoleTask (Except Error α)} {ok : Except Error α → Prop}
    (request : IsRequest t) : Cautious ok t key? := by
  rcases request with ⟨question, answer, same⟩ | ⟨e, same⟩ <;> rw [same]
  · exact fun _ => trivial
  · trivial

/-- What follows a success takes nothing back. -/
theorem following {follow : ConsoleTask Unit} {t : ConsoleTask (Except Error α)}
    (cautious : Cautious Succeeds t key?) : Cautious Succeeds (t.bind (following follow)) key? := by
  have sure (a : α) : Ensures Succeeds (Console.following follow (.ok a)) :=
    Ensures.behind follow fun _ => ⟨a, rfl⟩
  refine cautious.bind (fun outcome => ?_) ?_
  · cases outcome with
    | error e => trivial
    | ok a => exact (sure a).cautious none
  · rintro _ ⟨a, rfl⟩
    exact sure a

theorem columns (table : String) {ok : Except Error (List Column) → Prop} :
    Cautious ok (Console.columns table .cached) (some (.columns table)) := by
  refine Or.inr (Or.inl ⟨_, rfl, fun _ => rfl, fun c => ?_⟩)
  change Cautious ok (Cache.finishRead _ _ _) none
  cases (c.cache.read c.now (.columns table) .cached ()).2 with
  | served v => trivial
  | awaiting flight => exact Or.inl ⟨fun _ => rfl, fun _ => trivial⟩

/-- A success of what comes first is followed by what may still fail. -/
theorem behind {t : ConsoleTask (Except Error α)} {k : Except Error α → ConsoleTask β}
    (cautious : Cautious (fun _ => False) t key?) (fails : ∀ e, Cautious ok' (k (.error e)) none)
    (rest : ∀ a, Cautious ok' (k (.ok a)) none) : Cautious ok' (t.bind k) key? :=
  cautious.bind (fun outcome => match outcome with
    | .error e => fails e
    | .ok a => rest a) fun _ => False.elim

theorem returning {wrap : α → Returned} {t : ConsoleTask (Except Error α)}
    (cautious : Cautious Succeeds t key?) : Cautious Returns (Console.returning wrap t) key? := by
  refine cautious.bind (fun _ => trivial) ?_
  rintro _ ⟨a, rfl⟩
  exact ⟨wrap a, rfl⟩

/-! ### Every change -/

theorem of_makes {plan : Plan} {t : ConsoleTask (Except Error α)} (makes : Makes plan key? t) :
    Cautious Succeeds t key? := by
  induction makes with
  | refused key? e => trivial
  | sent key? sends =>
    rw [concluding_eq]
    exact (request (.of_sends sends)).following
  | read fails rest ih =>
    refine (columns _).behind (fun e => ?_) ih
    rw [fails]
    trivial

theorem dropTable (table : String) (confirmed : Bool) :
    Cautious Succeeds (Console.dropTable table confirmed) none := by
  rw [dropTable_eq]
  exact (of_makes (.storeDropTable table confirmed)).following

theorem alterTable (table : String) (change : Alteration) (confirmed : Bool) :
    Cautious Succeeds (Console.alterTable table change confirmed) none := by
  rw [alterTable_eq]
  exact (of_makes (.storeAlterTable table change confirmed)).following

theorem executeSql (request : SqlRequest) (confirmed : Bool) :
    Cautious Succeeds (Console.executeSql request confirmed) none := by
  rw [executeSql_eq]
  refine Or.inl ⟨fun _ => rfl, fun c => ?_⟩
  exact (of_makes (.storeExecuteSql request c.session.engine confirmed)).following

end Cautious

theorem Change.cautious (change : Change) : Cautious Returns change.task change.reads? := by
  obtain ⟨_, _, _, makes, same⟩ := change.makes
  rw [same]
  exact (Cautious.of_makes makes).returning

/-- The action changes what the backend holds, by the store alone or so that the selection
follows. -/
def Action.changes : Action → Bool
  | .operate (.change _) => true
  | .dropTable _ _ => true
  | .alterTable _ _ _ => true
  | .executeSql _ _ => true
  | _ => false

def Action.reads? : Action → Option Key
  | .operate (.change change) => change.reads?
  | _ => none

theorem Action.cautious {action : Action} (changes : action.changes = true) :
    Cautious Returns action.task action.reads? := by
  cases action with
  | operate operation =>
    cases operation with
    | read read => cases changes
    | change change => exact change.cautious
  | dropTable table confirmed => exact (Cautious.dropTable _ _).returning
  | alterTable table change confirmed => exact (Cautious.alterTable _ _ _).returning
  | executeSql request confirmed => exact (Cautious.executeSql _ _).returning
  | _ => cases changes

end DbConsole.Console

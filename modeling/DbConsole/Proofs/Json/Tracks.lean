import DbConsole.Proofs.Json.SameStop

/-!
Two readers over one text of which the first succeeds: the second keeps pace with it, or fails with a
fault that goes with what the first found.
-/
set_option autoImplicit false

namespace DbConsole.Json.Reader

variable {α α' β β' : Type}

/-- Where the first reader succeeds, the outcome of the second goes with what the first found; if
it is a value, both stop at the same place. -/
def Tracks (Goes : α → Except Fault α' → Prop) (r : Reader α) (r' : Reader α') : Prop :=
  ∀ s a t, r s = .ok (a, t) → ∃ o, Goes a o ∧ r' s = o.map fun a' => (a', t)

/-- The second reader found the same. -/
def Same (a : α) (o : Except Fault α) : Prop :=
  o = .ok a

/-- The outcome for a value that may be missing. -/
inductive Maybe (Goes : α → Except Fault α' → Prop) : Option α → Except Fault (Option α') → Prop where
  | none : Maybe Goes none (.ok none)
  | some {a : α} {a' : α'} (goes : Goes a (.ok a')) : Maybe Goes (some a) (.ok (some a'))
  | lost {a : α} {fault : Fault} (goes : Goes a (.error fault)) : Maybe Goes (some a) (.error fault)

/-- The outcome for two values: if either is lost, then with its fault. -/
inductive Both (Goes : α → Except Fault α' → Prop) (Later : β → Except Fault β' → Prop) :
    α × β → Except Fault (α' × β') → Prop where
  | both {a : α} {a' : α'} {b : β} {b' : β'} (goes : Goes a (.ok a')) (later : Later b (.ok b')) :
    Both Goes Later (a, b) (.ok (a', b'))
  | first {a : α} {b : β} {fault : Fault} (goes : Goes a (.error fault)) :
    Both Goes Later (a, b) (.error fault)
  | later {a : α} {b : β} {fault : Fault} (later : Later b (.error fault)) :
    Both Goes Later (a, b) (.error fault)

section Both

variable {Goes : α → Except Fault α' → Prop} {a : α} {b : β}

/-- Beside a first value that is the same only the second may be lost. -/
theorem Both.of_same {Later : β → Except Fault β' → Prop} {o : Except Fault (α × β')}
    (goes : Both Same Later (a, b) o) : ∃ o', Later b o' ∧ o = o'.map fun b' => (a, b') := by
  cases goes with
  | both goes later =>
    cases goes
    exact ⟨_, later, rfl⟩
  | first goes => cases goes
  | later later => exact ⟨_, later, rfl⟩

theorem Both.same_same {o : Except Fault (α × β)} (goes : Both Same Same (a, b) o) : Same (a, b) o := by
  obtain ⟨o', same, rfl⟩ := goes.of_same
  cases same
  rfl

/-- Before a second value that is the same only the first may be lost. -/
theorem Both.of_later_same {Later : β → Except Fault β → Prop} {o : Except Fault (α' × β)}
    (goes : Both Goes Later (a, b) o) (same : ∀ o, Later b o → Same b o) :
    ∃ o', Goes a o' ∧ o = o'.map fun a' => (a', b) := by
  cases goes with
  | both goes later =>
    cases same _ later
    exact ⟨_, goes, rfl⟩
  | first goes => exact ⟨_, goes, rfl⟩
  | later later => cases same _ later

end Both

namespace Tracks

variable {γ : Type} {Goes : α → Except Fault α' → Prop} {Later : β → Except Fault β' → Prop}

theorem same (r : Reader α) : Tracks Same r r :=
  fun _ a _ read => ⟨.ok a, rfl, read⟩

theorem of_fails {r : Reader α} (fails : Fails r) (r' : Reader α') : Tracks Goes r r' :=
  fun s a t read => absurd read (fails s a t)

theorem pure {a : α} {a' : α'} (goes : Goes a (.ok a')) : Tracks Goes (pure a) (pure a') := by
  rintro s _ _ ⟨⟩
  exact ⟨.ok a', goes, rfl⟩

/-- Behind what both have in common. -/
theorem onward {r : Reader γ} {f : γ → Reader α} {g : γ → Reader α'}
    (later : ∀ c, Tracks Goes (f c) (g c)) : Tracks Goes (r >>= f) (r >>= g) := by
  intro s a t taken
  obtain ⟨c, u, read, onward⟩ := bind_eq_ok.mp taken
  rw [bind_of_ok read]
  exact later c u a t onward

/-- One after the other: a value that is lost stays lost however the first reader goes on. -/
theorem bind {r : Reader α} {r' : Reader α'} {f : α → Reader β} {g : α' → Reader β'}
    (first : Tracks Goes r r') (later : ∀ a a', Goes a (.ok a') → Tracks Later (f a) (g a'))
    (lost : ∀ a fault, Goes a (.error fault) → ∀ s b t, f a s = .ok (b, t) → Later b (.error fault)) :
    Tracks Later (r >>= f) (r' >>= g) := by
  intro s b t taken
  obtain ⟨a, u, read, onward⟩ := bind_eq_ok.mp taken
  obtain ⟨o, goes, read'⟩ := first s a u read
  cases o with
  | ok a' =>
    rw [bind_of_ok read']
    exact later a a' goes u b t onward
  | error fault =>
    refine ⟨.error fault, lost a fault goes u b t onward, ?_⟩
    change (r' s >>= fun x => g x.1 x.2) = _
    rw [read']
    rfl

theorem nullable {item : Reader α} {item' : Reader α'} (tracks : Tracks Goes item item')
    (inList omitted : Bool) :
    Tracks (Maybe Goes) (Presence.read item (.nullable inList omitted))
      (Presence.read item' (.nullable inList omitted)) := by
  refine onward fun o => ?_
  split
  case h_1 => exact onward fun _ => onward fun _ => pure .none
  case h_2 =>
    refine bind tracks (fun _ _ goes => pure (.some goes)) ?_
    rintro a fault goes s _ t ⟨⟩
    exact .lost goes

end Tracks

theorem run_eq_ok {r : Reader α} {cs : List Char} {a : α} :
    run r cs = .ok a ↔ ∃ t, r (Source.ofChars cs) = .ok (a, t) ∧ ∃ u, finish t = .ok ((), u) := by
  change (r (Source.ofChars cs) >>= fun x => finish x.2 >>= fun _ => Except.ok x.1) = _ ↔ _
  cases r (Source.ofChars cs) with
  | error fault =>
    constructor
    · rintro ⟨⟩
    · rintro ⟨_, ⟨⟩, _⟩
  | ok x =>
    constructor
    · intro read
      cases ended : finish x.2 with
      | error fault =>
        change (finish x.2 >>= fun _ => Except.ok x.1) = _ at read
        rw [ended] at read
        cases read
      | ok y =>
        change (finish x.2 >>= fun _ => Except.ok x.1) = _ at read
        rw [ended] at read
        cases read
        exact ⟨x.2, rfl, y.2, ended⟩
    · rintro ⟨t, ⟨⟩, u, ended⟩
      change (finish t >>= fun _ => Except.ok a) = _
      rw [ended]
      rfl

theorem Tracks.run {Goes : α → Except Fault α' → Prop} {r : Reader α} {r' : Reader α'}
    (tracks : Tracks Goes r r') {cs : List Char} {a : α} (read : run r cs = .ok a) :
    ∃ o, Goes a o ∧ Reader.run r' cs = o := by
  obtain ⟨t, read, u, ended⟩ := run_eq_ok.mp read
  obtain ⟨o, goes, read'⟩ := tracks _ a t read
  refine ⟨o, goes, ?_⟩
  cases o with
  | ok a' => exact run_eq_ok.mpr ⟨t, read', u, ended⟩
  | error fault =>
    change (r' (Source.ofChars cs) >>= fun x => finish x.2 >>= fun _ => Except.ok x.1) = _
    rw [read']
    rfl

/-! ### Fields of an object -/

section Fields

variable {π π' : Type} {Goes : α → Except Fault α' → Prop} {Rest : π → Except Fault π' → Prop}

/-- The second way of taking fields keeps pace with the first, field by field. -/
structure Follows (Rest : π → Except Fault π' → Prop) (take : String → π → Option (Reader π))
    (take' : String → π' → Option (Reader π')) : Prop where
  unknown : ∀ k p p', Rest p (.ok p') → take k p = none → take' k p' = none
  known : ∀ k p p' r, Rest p (.ok p') → take k p = some r →
    ∃ r', take' k p' = some r' ∧ Tracks Rest r r'
  lost : ∀ k p r fault, Rest p (.error fault) → take k p = some r → ∀ s q t, r s = .ok (q, t) →
    Rest q (.error fault)

section Loop

variable {take : String → π → Option (Reader π)} {take' : String → π' → Option (Reader π')}
  (follows : Follows Rest take take')
include follows

theorem lost_fieldLoop (n : Nat) (first : Bool) {p : π} {fault : Fault} (lost : Rest p (.error fault))
    {s t : Source} {q : π} (read : fieldLoop take n first p s = .ok (q, t)) :
    Rest q (.error fault) := by
  induction n generalizing first p s with
  | zero => cases read
  | succ n ih =>
    obtain ⟨more, u, -, read⟩ := bind_eq_ok.mp read
    cases more with
    | false =>
      obtain ⟨_, v, -, done⟩ := bind_eq_ok.mp read
      cases done
      exact lost
    | true =>
      obtain ⟨k, v, -, read⟩ := bind_eq_ok.mp read
      cases found : take k p with
      | none =>
        rw [found] at read
        obtain ⟨_, w, -, read⟩ := bind_eq_ok.mp read
        obtain ⟨_, x, -, read⟩ := bind_eq_ok.mp read
        exact ih false lost read
      | some r =>
        rw [found] at read
        obtain ⟨p', w, taken, read⟩ := bind_eq_ok.mp read
        exact ih false (follows.lost k p r fault lost found v p' w taken) read

theorem tracks_fieldLoop (n : Nat) (first : Bool) {p : π} {p' : π'} (goes : Rest p (.ok p')) :
    Tracks Rest (fieldLoop take n first p) (fieldLoop take' n first p') := by
  induction n generalizing first p p' with
  | zero => exact .of_fails (.fail _) _
  | succ n ih =>
    refine .onward fun more => ?_
    cases more with
    | false => exact .onward fun _ => .pure goes
    | true =>
      refine .onward fun k => ?_
      cases found : take k p with
      | none =>
        rw [follows.unknown k p p' goes found]
        exact .onward fun _ => .onward fun _ => ih false goes
      | some r =>
        obtain ⟨r', found', tracks⟩ := follows.known k p p' r goes found
        rw [found']
        exact .bind tracks (fun _ _ goes => ih false goes) fun _ _ lost _ _ _ read =>
          lost_fieldLoop follows n false lost read

end Loop

/-- Takes the value of one field, or leaves the key to the fields that come later. -/
def takeField (key : String) (value : Reader α) (later : String → π → Option (Reader π))
    (k : String) : Option α × π → Option (Reader (Option α × π))
  | (given, more) =>
    if k = key then
      match given with
      | some _ => some (failClosing '\x7d' (.duplicateField key))
      | none => some do
        colon
        let a ← value
        return (some a, more)
    else (later k more).map fun r => do return (given, ← r)

theorem Follows.nothing : Follows (Same (α := Unit)) (fun _ _ => none) (fun _ _ => none) where
  unknown _ _ _ _ _ := rfl
  known _ _ _ _ _ := nofun
  lost _ _ _ _ := nofun

section Field

variable {key k : String} {value : Reader α} {later : String → π → Option (Reader π)}

theorem takeField_own (given : Option α) (more : π) :
    takeField key value later key (given, more) =
      match given with
      | some _ => some (failClosing '\x7d' (.duplicateField key))
      | none => some do
        colon
        let a ← value
        return (some a, more) :=
  if_pos rfl

theorem takeField_other (other : k ≠ key) (given : Option α) (more : π) :
    takeField key value later k (given, more) =
      (later k more).map fun r => do return (given, ← r) :=
  if_neg other

end Field

theorem Follows.field (key : String) {value : Reader α} {value' : Reader α'}
    (tracks : Tracks Goes value value') {later : String → π → Option (Reader π)}
    {later' : String → π' → Option (Reader π')} (follows : Follows Rest later later') :
    Follows (Both (Maybe Goes) Rest) (takeField key value later) (takeField key value' later') where
  unknown k p p' goes found := by
    obtain @⟨given, given', more, more', goes, rest⟩ := goes
    by_cases own : k = key
    · subst own
      rw [takeField_own] at found
      cases given <;> cases found
    · rw [takeField_other own, Option.map_eq_none_iff] at found
      rw [takeField_other own, follows.unknown k more more' rest found]
      rfl
  known k p p' r goes found := by
    obtain @⟨given, given', more, more', goes, rest⟩ := goes
    by_cases own : k = key
    · subst own
      rw [takeField_own] at found ⊢
      cases goes with
      | some _ =>
        cases found
        exact ⟨_, rfl, .of_fails (fails_failClosing _ _) _⟩
      | none =>
        cases found
        refine ⟨_, rfl, .onward fun _ => .bind tracks (fun a a' goes => ?_) ?_⟩
        · exact .pure (.both (.some goes) rest)
        · rintro a fault lost s _ t ⟨⟩
          exact .first (.lost lost)
    · rw [takeField_other own] at found ⊢
      obtain ⟨r, known, rfl⟩ := Option.map_eq_some_iff.mp found
      obtain ⟨r', known', tracks⟩ := follows.known k more more' r rest known
      rw [known']
      refine ⟨_, rfl, .bind tracks (fun m m' rest => .pure (.both goes rest)) ?_⟩
      rintro m fault lost s _ t ⟨⟩
      exact .later lost
  lost k p r fault lost found s q t read := by
    obtain ⟨given, more⟩ := p
    by_cases own : k = key
    · subst own
      rw [takeField_own] at found
      cases given with
      | some _ =>
        cases found
        exact absurd read (fails_failClosing _ _ _ _ _)
      | none =>
        cases found
        obtain ⟨_, u, -, read⟩ := bind_eq_ok.mp read
        obtain ⟨a, v, -, done⟩ := bind_eq_ok.mp read
        cases done
        cases lost with
        | first lost => cases lost
        | later lost => exact .later lost
    · rw [takeField_other own] at found
      obtain ⟨r, known, rfl⟩ := Option.map_eq_some_iff.mp found
      obtain ⟨m, u, taken, done⟩ := bind_eq_ok.mp read
      cases done
      cases lost with
      | first lost => exact .first lost
      | later lost => exact .later (follows.lost k more r fault lost known s m t taken)

/-- Fills in the slot of a field behind which the later ones are complete. -/
def fillField (key : String) (lacking : Option α) (later : π → Except String β) :
    Option α × π → Except String (α × β)
  | (given, more) =>
    match given.or lacking with
    | none => .error key
    | some a => (later more).map fun b => (a, b)

theorem map_eq_ok {ε : Type} {r : Except ε α} {f : α → β} {b : β} :
    r.map f = .ok b ↔ ∃ a, r = .ok a ∧ f a = b := by
  cases r with
  | error e =>
    constructor
    · rintro ⟨⟩
    · rintro ⟨_, ⟨⟩, _⟩
  | ok a =>
    constructor
    · rintro ⟨⟩
      exact ⟨a, rfl, rfl⟩
    · rintro ⟨_, ⟨⟩, rfl⟩
      rfl

theorem fillField_eq_ok {key : String} {lacking given : Option α} {later : π → Except String β}
    {more : π} {v : α × β} :
    fillField key lacking later (given, more) = .ok v ↔
      ∃ a, given.or lacking = some a ∧ ∃ b, later more = .ok b ∧ (a, b) = v := by
  dsimp only [fillField]
  cases held : given.or lacking with
  | none =>
    constructor
    · rintro ⟨⟩
    · rintro ⟨_, ⟨⟩, _⟩
  | some a =>
    constructor
    · exact fun filled => ⟨a, rfl, map_eq_ok.mp filled⟩
    · rintro ⟨_, ⟨⟩, filled⟩
      exact map_eq_ok.mpr filled

theorem or_of_maybe {given lacking : Option α} {given' lacking' : Option α'} {a : α}
    (goes : Maybe Goes given (.ok given'))
    (lacks : ∀ a, lacking = some a → ∃ a', lacking' = some a' ∧ Goes a (.ok a'))
    (held : given.or lacking = some a) : ∃ a', given'.or lacking' = some a' ∧ Goes a (.ok a') := by
  cases goes with
  | none => exact lacks a held
  | some goes =>
    cases held
    exact ⟨_, rfl, goes⟩

/-- The second way of completing a record keeps pace with the first. -/
structure Completes (Rest : π → Except Fault π' → Prop) (Later : β → Except Fault β' → Prop)
    (fill : π → Except String β) (fill' : π' → Except String β') : Prop where
  goes : ∀ p p' b, Rest p (.ok p') → fill p = .ok b → ∃ b', fill' p' = .ok b' ∧ Later b (.ok b')
  lost : ∀ p fault b, Rest p (.error fault) → fill p = .ok b → Later b (.error fault)

theorem Completes.nothing : Completes (Same (α := Unit)) (Same (α := Unit)) .ok .ok where
  goes := by
    rintro p p' b goes ⟨⟩
    exact ⟨p', rfl, goes⟩
  lost _ _ _ := nofun

theorem Completes.field (key : String) {lacking : Option α} {lacking' : Option α'}
    (lacks : ∀ a, lacking = some a → ∃ a', lacking' = some a' ∧ Goes a (.ok a'))
    {Later : β → Except Fault β' → Prop} {fill : π → Except String β} {fill' : π' → Except String β'}
    (completes : Completes Rest Later fill fill') :
    Completes (Both (Maybe Goes) Rest) (Both Goes Later) (fillField key lacking fill)
      (fillField key lacking' fill') where
  goes p p' b goes filled := by
    obtain @⟨given, given', more, more', goes, rest⟩ := goes
    obtain ⟨a, held, b, done, rfl⟩ := fillField_eq_ok.mp filled
    obtain ⟨a', held', goes⟩ := or_of_maybe goes lacks held
    obtain ⟨b', done', later⟩ := completes.goes more more' b rest done
    exact ⟨(a', b'), fillField_eq_ok.mpr ⟨a', held', b', done', rfl⟩, .both goes later⟩
  lost p fault b lost filled := by
    obtain ⟨given, more⟩ := p
    obtain ⟨a, held, b, done, rfl⟩ := fillField_eq_ok.mp filled
    cases lost with
    | first lost =>
      cases lost with
      | lost lost =>
        cases held
        exact .first lost
    | later lost => exact .later (completes.lost more fault b lost done)

section Settle

variable {Later : β → Except Fault β' → Prop} {fill : π → Except String β}
  {fill' : π' → Except String β'} (completes : Completes Rest Later fill fill') (cause : String → Cause)
include completes

theorem Completes.tracks_settle {p : π} {p' : π'} (goes : Rest p (.ok p')) :
    Tracks Later (settle ((fill p).mapError cause)) (settle ((fill' p').mapError cause)) := by
  cases filled : fill p with
  | error key => exact .of_fails (.fail _) _
  | ok b =>
    obtain ⟨b', filled', later⟩ := completes.goes p p' b goes filled
    rw [filled']
    exact .pure later

theorem Completes.lost_settle {p : π} {fault : Fault} (lost : Rest p (.error fault)) {s t : Source}
    {b : β} (read : settle ((fill p).mapError cause) s = .ok (b, t)) : Later b (.error fault) := by
  cases filled : fill p with
  | error key =>
    rw [filled] at read
    cases read
  | ok b =>
    rw [filled] at read
    cases read
    exact completes.lost p fault b lost filled

end Settle

/-! ### Fields that stand in a list -/

/-- Takes the value of one field from a list, or does without it where the list ends. -/
def listField (expected : String) (value : Reader α) (cut : Option α) (later : Nat → Reader β)
    (index : Nat) : Reader (α × β) := do
  if ← moreItems (index == 0) then
    let a ← value
    return (a, ← later (index + 1))
  else
    match cut with
    | none => failClosing ']' (.invalidLength index expected)
    | some a => return (a, ← later (index + 1))

theorem Tracks.listField (expected : String) {value : Reader α} {value' : Reader α'}
    (tracks : Tracks Goes value value') {cut : Option α} {cut' : Option α'}
    (cuts : ∀ a, cut = some a → ∃ a', cut' = some a' ∧ Goes a (.ok a'))
    {Later : β → Except Fault β' → Prop} {later : Nat → Reader β} {later' : Nat → Reader β'}
    (onwards : ∀ index, Tracks Later (later index) (later' index)) (index : Nat) :
    Tracks (Both Goes Later) (listField expected value cut later index)
      (listField expected value' cut' later' index) := by
  have both (a : α) (a' : α') (goes : Goes a (.ok a')) : Tracks (Both Goes Later)
      (do return (a, ← later (index + 1))) (do return (a', ← later' (index + 1))) := by
    refine .bind (onwards (index + 1)) (fun b b' later => .pure (.both goes later)) ?_
    rintro b fault lost s _ t ⟨⟩
    exact .later lost
  refine .onward fun more => ?_
  cases more with
  | true =>
    refine .bind tracks both fun a fault lost s b t read => ?_
    obtain ⟨b, u, -, done⟩ := bind_eq_ok.mp read
    cases done
    exact .first lost
  | false =>
    cases cut with
    | none => exact .of_fails (fails_failClosing _ _) _
    | some a =>
      obtain ⟨a', rfl, goes⟩ := cuts a rfl
      exact both a a' goes

end Fields

end DbConsole.Json.Reader

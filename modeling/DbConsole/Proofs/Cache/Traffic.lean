import DbConsole.Proofs.Cache.SingleRead
import Mathlib.Data.List.Forall2
import Mathlib.Data.List.Induction
import Mathlib.Logic.Function.Basic

/-!
A cache with all that goes on around it: readers who come and leave, and the tasks of the fetches, whose
jobs are answered from outside. What goes on is about one key, or it marks, clears or collects the
entries of all of them; the fetches and the readers of a key are told apart by the order in which they
came.
-/
set_option autoImplicit false

namespace DbConsole

variable {V J : Type}

/-- The flight under another number. -/
def Flight.renumber (ρ : Nat → Nat) (f : Flight J) : Flight J :=
  { f with id := ρ f.id }

namespace Cache

/-- The task of a fetch, which asks for its job to be done. -/
abbrev FetchTask (V J : Type) :=
  Task (Cache V J × Nat) J (Except Error V) Unit

/-- How far a fetch has got. -/
inductive Leg (V J : Type) where
  | ready (task : FetchTask V J)
  | asking (next : Except Error V → FetchTask V J)
  | asleep (wakeAt : Nat) (task : FetchTask V J)

namespace Leg

/-- The task, if it can go on at that time. -/
def task? (now : Nat) : Leg V J → Option (FetchTask V J)
  | .ready t => some t
  | .asking _ => none
  | .asleep wakeAt t => if wakeAt ≤ now then some t else none

/-- Where a task is that goes no further. -/
def resting (now : Nat) : FetchTask V J → Leg V J
  | .call _ next => .asking next
  | .sleep time next => .asleep (now + time) next
  | t => .ready t

def answered (outcome : Except Error V) : Leg V J → Leg V J
  | .asking next => .ready (next outcome)
  | leg => leg

end Leg

/-- What a task asks for that goes no further. -/
def asks? (s : Cache V J × Nat) : FetchTask V J → Option J
  | .call question _ => some (question s)
  | _ => none

/-- What goes on for one key. -/
structure Lane (V J : Type) where
  /-- The fetches in the order of their departure. -/
  fetches : List (Flight J × Leg V J)
  /-- What the readers have been given, in the order in which they came; none for those who left. -/
  readers : List (Option (Reading V))
  /-- When jobs were asked for, and which. -/
  calls : List (Nat × J)

namespace Lane

def empty : Lane V J :=
  ⟨[], [], []⟩

def flights (l : Lane V J) : List (Flight J) :=
  l.fetches.map Prod.fst

/-- What a reader has got so far, as a value of the reader's kind. -/
def result? {α : Type} (c : Cache V J) (l : Lane V J) (key : Key) (cast : V → Option α)
    (reader : Nat) : Option (Except Error α) :=
  match l.readers[reader]? with
  | some (some reading) => outcome? key cast reading (c, 0)
  | _ => none

end Lane

/-- What can happen to one key. -/
inductive Errand (V J : Type) where
  | read (now : Nat) (policy : FetchPolicy) (job : J)
  /-- A reader is cancelled. -/
  | leave (reader : Nat)
  /-- A fetch goes on as far as it gets. -/
  | visit (now fetch : Nat)
  /-- A fetch is told what has come of its job. -/
  | answer (fetch : Nat) (outcome : Except Error V)

namespace Errand

/-- A fetch goes on until it has to wait, and then asks for its job if it is for that. -/
def visiting (now i : Nat) (c : Cache V J) (l : Lane V J) : Cache V J × Lane V J :=
  match l.fetches[i]? with
  | some p =>
    match p.2.task? now with
    | some t =>
      let run := t.advance (c, now)
      (run.1.1,
        { l with
          fetches := l.fetches.modify i fun p => (p.1, .resting now run.2)
          calls := l.calls ++ ((asks? run.1 run.2).map (now, ·)).toList })
    | none => (c, l)
  | none => (c, l)

/-- The fetches that a read lets depart are taken up at once. -/
def run (key : Key) : Errand V J → Cache V J → Lane V J → Cache V J × Lane V J
  | .read now policy job, c, l =>
    let r := c.read now key policy job
    let (departed, c') := r.1.takeDepartures
    (c',
      { l with
        fetches := l.fetches ++
          departed.map fun f => (f, .ready (fly c.settings f (Task.ask fun _ => f.job)))
        readers := l.readers ++ [some r.2] })
  | .leave reader, c, l => (c, { l with readers := l.readers.set reader none })
  | .visit now fetch, c, l => visiting now fetch c l
  | .answer fetch outcome, c, l =>
    (c, { l with fetches := l.fetches.modify fetch fun p => (p.1, p.2.answered outcome) })

end Errand

inductive Move (V J : Type) where
  | about (key : Key) (errand : Errand V J)
  | invalidate (filters : List Filter)
  | clear
  | collect (now : Nat)

/-- Whether the move is about the key, or about all keys. -/
def Move.concerns (k : Key) : Move V J → Bool
  | .about key _ => key == k
  | _ => true

structure Traffic (V J : Type) where
  cache : Cache V J
  lane : Key → Lane V J

namespace Traffic

def empty (settings : CacheSettings) : Traffic V J :=
  ⟨.empty settings, fun _ => .empty⟩

def step (t : Traffic V J) : Move V J → Traffic V J
  | .about key errand =>
    let r := errand.run key t.cache (t.lane key)
    ⟨r.1, Function.update t.lane key r.2⟩
  | .invalidate filters => { t with cache := t.cache.invalidate filters }
  | .clear => { t with cache := t.cache.clear }
  | .collect now => { t with cache := t.cache.collect now }

/-- What has become of an empty cache by the moves. -/
def after (settings : CacheSettings) (moves : List (Move V J)) : Traffic V J :=
  moves.foldl step (empty settings)

theorem after_append (settings : CacheSettings) (moves : List (Move V J)) (m : Move V J) :
    after settings (moves ++ [m]) = (after settings moves).step m := by
  rw [after, List.foldl_append]
  rfl

theorem lane_step_of_ne (t : Traffic V J) {key k : Key} (errand : Errand V J) (apart : key ≠ k) :
    (t.step (.about key errand)).lane k = t.lane k :=
  Function.update_of_ne apart.symm ..

theorem lane_step_self (t : Traffic V J) (key : Key) (errand : Errand V J) :
    (t.step (.about key errand)).lane key = (errand.run key t.cache (t.lane key)).2 :=
  Function.update_self ..

end Traffic

/-! ### Fetches that differ in their flights -/

/-- Two tasks that do the same step by step, but that the one lands the one flight and the other lands
the other. -/
inductive Twins (f g : Flight J) : FetchTask V J → FetchTask V J → Prop
  | done : Twins f g (.done ()) (.done ())
  | land (outcome : Except Error V) :
    Twins f g
      (Task.change fun s => Cache.change (fun c => c.land (HasCache.now s) f outcome) s)
      (Task.change fun s => Cache.change (fun c => c.land (HasCache.now s) g outcome) s)
  | yield {t t' : FetchTask V J} (later : Twins f g t t') :
    Twins f g (.wait (fun _ => true) t) (.wait (fun _ => true) t')
  | ask (job : J) {next next' : Except Error V → FetchTask V J}
    (later : ∀ outcome, Twins f g (next outcome) (next' outcome)) :
    Twins f g (.call (fun _ => job) next) (.call (fun _ => job) next')
  | sleep (time : Nat) {t t' : FetchTask V J} (later : Twins f g t t') :
    Twins f g (.sleep time t) (.sleep time t')

inductive LegTwins (f g : Flight J) : Leg V J → Leg V J → Prop
  | ready {t t' : FetchTask V J} (twins : Twins f g t t') : LegTwins f g (.ready t) (.ready t')
  | asking {next next' : Except Error V → FetchTask V J}
    (twins : ∀ outcome, Twins f g (next outcome) (next' outcome)) :
    LegTwins f g (.asking next) (.asking next')
  | asleep (wakeAt : Nat) {t t' : FetchTask V J} (twins : Twins f g t t') :
    LegTwins f g (.asleep wakeAt t) (.asleep wakeAt t')

namespace Twins

variable {f g : Flight J} {t t' : FetchTask V J}

theorem attempts (job : J) (delay left : Nat) {next next' : Except Error V → FetchTask V J}
    (later : ∀ outcome, Twins f g (next outcome) (next' outcome)) :
    Twins f g ((attempts (Task.ask fun _ => job) delay left).bind next)
      ((attempts (Task.ask fun _ => job) delay left).bind next') := by
  induction left with
  | zero => exact .ask job later
  | succ left ih =>
    refine .ask job fun outcome => ?_
    cases outcome with
    | ok v => exact later (.ok v)
    | error e =>
      by_cases again : e.isRetryable = true
      · simpa [again, Task.bind] using .sleep delay ih
      · simpa [again, Task.bind, pure] using later (.error e)

theorem fly (settings : CacheSettings) (same : f.job = g.job) :
    Twins f g (fly settings f (Task.ask fun _ => f.job) : FetchTask V J)
      (Cache.fly settings g (Task.ask fun _ => g.job)) :=
  same ▸ attempts f.job _ _ fun outcome => .yield (.land outcome)

/-- They go on alike: neither touches its cache, or both land what has been brought. -/
theorem advance (twins : Twins f g t t') (c c' : Cache V J) (now : Nat) :
    ∃ rest rest', Twins f g rest rest' ∧
      ((t.advance (c, now) = ((c, now), rest) ∧ t'.advance (c', now) = ((c', now), rest')) ∨
        ∃ outcome, t.advance (c, now) = ((c.land now f outcome, now), rest) ∧
          t'.advance (c', now) = ((c'.land now g outcome, now), rest')) := by
  induction twins with
  | done => exact ⟨_, _, .done, .inl ⟨rfl, rfl⟩⟩
  | land outcome => exact ⟨_, _, .done, .inr ⟨outcome, rfl, rfl⟩⟩
  | yield _ ih => exact ih
  | ask job later => exact ⟨_, _, .ask job later, .inl ⟨rfl, rfl⟩⟩
  | sleep time later => exact ⟨_, _, .sleep time later, .inl ⟨rfl, rfl⟩⟩

theorem resting (twins : Twins f g t t') (now : Nat) :
    LegTwins f g (.resting now t) (.resting now t') := by
  cases twins with
  | done => exact .ready .done
  | land outcome => exact .ready (.land outcome)
  | yield later => exact .ready (.yield later)
  | ask job later => exact .asking later
  | sleep time later => exact .asleep _ later

theorem asks?_eq (twins : Twins f g t t') (s s' : Cache V J × Nat) : asks? s' t' = asks? s t := by
  cases twins <;> rfl

end Twins

namespace LegTwins

variable {f g : Flight J} {leg leg' : Leg V J}

theorem task? (twins : LegTwins f g leg leg') (now : Nat) :
    (leg.task? now = none ∧ leg'.task? now = none) ∨
      ∃ t t', leg.task? now = some t ∧ leg'.task? now = some t' ∧ Twins f g t t' := by
  cases twins with
  | ready twins => exact .inr ⟨_, _, rfl, rfl, twins⟩
  | asking twins => exact .inl ⟨rfl, rfl⟩
  | asleep wakeAt twins =>
    by_cases late : wakeAt ≤ now
    · exact .inr ⟨_, _, if_pos late, if_pos late, twins⟩
    · exact .inl ⟨if_neg late, if_neg late⟩

theorem answered (twins : LegTwins f g leg leg') (outcome : Except Error V) :
    LegTwins f g (leg.answered outcome) (leg'.answered outcome) := by
  cases twins with
  | ready twins => exact .ready twins
  | asking twins => exact .ready (twins outcome)
  | asleep wakeAt twins => exact .asleep wakeAt twins

end LegTwins

/-! ### Lanes that differ in their flights -/

section Lists

variable {α β : Type} {R : α → β → Prop} {l : List α} {l' : List β}

theorem forall₂_getElem? (all : List.Forall₂ R l l') (i : Nat) :
    (l[i]? = none ∧ l'[i]? = none) ∨ ∃ a b, l[i]? = some a ∧ l'[i]? = some b ∧ R a b := by
  induction all generalizing i with
  | nil => exact .inl ⟨rfl, rfl⟩
  | cons first rest ih =>
    cases i with
    | zero => exact .inr ⟨_, _, rfl, rfl, first⟩
    | succ i => exact ih i

theorem forall₂_modify (all : List.Forall₂ R l l') {i : Nat} {f : α → α} {g : β → β}
    (keeps : ∀ a b, l[i]? = some a → l'[i]? = some b → R a b → R (f a) (g b)) :
    List.Forall₂ R (l.modify i f) (l'.modify i g) := by
  induction all generalizing i with
  | nil => simp
  | cons first rest ih =>
    cases i with
    | zero => exact .cons (keeps _ _ rfl rfl first) rest
    | succ i => exact .cons first (ih keeps)

theorem map_fst_modify {γ : Type} (l : List (α × γ)) (i : Nat) {f : α × γ → α × γ}
    (keeps : ∀ p, (f p).1 = p.1) : (l.modify i f).map Prod.fst = l.map Prod.fst := by
  induction l generalizing i with
  | nil => simp
  | cons p rest ih =>
    cases i with
    | zero => exact congrArg (· :: _) (keeps p)
    | succ i => exact congrArg (p.1 :: ·) (ih i)

end Lists

/-- The fetches are the same, and have got equally far, but for the numbers of their flights. -/
def SameFetches (ρ : Nat → Nat) (l l' : Lane V J) : Prop :=
  List.Forall₂ (fun p q => q.1 = p.1.renumber ρ ∧ LegTwins p.1 q.1 p.2 q.2) l.fetches l'.fetches

theorem flights_read (key : Key) (now : Nat) (policy : FetchPolicy) (job : J) (c : Cache V J)
    (l : Lane V J) :
    ((Errand.read now policy job).run key c l).2.flights =
      l.flights ++ (c.read now key policy job).1.departures := by
  change List.map Prod.fst (l.fetches ++ List.map _ _) = _
  rw [List.map_append, List.map_map]
  exact congrArg _ (List.map_id _)

theorem flights_visiting (now i : Nat) (c : Cache V J) (l : Lane V J) :
    (Errand.visiting now i c l).2.flights = l.flights ∧
      (Errand.visiting now i c l).2.readers = l.readers := by
  unfold Errand.visiting
  split
  · split
    · exact ⟨map_fst_modify l.fetches i fun _ => rfl, rfl⟩
    · exact ⟨rfl, rfl⟩
  · exact ⟨rfl, rfl⟩

namespace SameFetches

variable {ρ : Nat → Nat} {l l' : Lane V J}

theorem flights_eq (same : SameFetches ρ l l') : l'.flights = l.flights.map (Flight.renumber ρ) := by
  have all : List.Forall₂ (· = ·) (l.fetches.map fun p => p.1.renumber ρ) (l'.fetches.map Prod.fst) :=
    List.forall₂_map_left_iff.mpr
      (List.forall₂_map_right_iff.mpr (same.imp fun _ _ both => both.1.symm))
  rw [List.forall₂_eq_eq_eq] at all
  rw [Lane.flights, Lane.flights, List.map_map]
  exact all.symm

theorem renumber {ρ' : Nat → Nat} (same : SameFetches ρ l l')
    (agree : ∀ f ∈ l.flights, ρ' f.id = ρ f.id) : SameFetches ρ' l l' := by
  obtain ⟨length, pairs⟩ := List.forall₂_iff_zip.mp same
  refine List.forall₂_iff_zip.mpr ⟨length, fun mem => ?_⟩
  obtain ⟨number, legs⟩ := pairs mem
  refine ⟨number.trans ?_, legs⟩
  rw [Flight.renumber, Flight.renumber, agree _ (List.mem_map_of_mem (List.of_mem_zip mem).1)]

theorem answered (same : SameFetches ρ l l') (i : Nat) (outcome : Except Error V) :
    List.Forall₂ (fun p q => q.1 = p.1.renumber ρ ∧ LegTwins p.1 q.1 p.2 q.2)
      (l.fetches.modify i fun p => (p.1, p.2.answered outcome))
      (l'.fetches.modify i fun p => (p.1, p.2.answered outcome)) :=
  forall₂_modify same fun _ _ _ _ both => ⟨both.1, both.2.answered outcome⟩

/-- A visit to a fetch brings both equally far. -/
theorem visiting (same : SameFetches ρ l l') (now i : Nat) (c c' : Cache V J) :
    SameFetches ρ (Errand.visiting now i c l).2 (Errand.visiting now i c' l').2 ∧
    (l'.calls = l.calls →
      (Errand.visiting now i c' l').2.calls = (Errand.visiting now i c l).2.calls) ∧
    (((Errand.visiting now i c l).1 = c ∧ (Errand.visiting now i c' l').1 = c') ∨
      ∃ f ∈ l.flights, ∃ outcome, (Errand.visiting now i c l).1 = c.land now f outcome ∧
        (Errand.visiting now i c' l').1 = c'.land now (f.renumber ρ) outcome) := by
  unfold Errand.visiting
  rcases forall₂_getElem? same i with ⟨none, none'⟩ | ⟨p, q, found, found', number, legs⟩
  · rw [none, none']
    exact ⟨same, id, .inl ⟨rfl, rfl⟩⟩
  · rw [found, found']
    dsimp only
    rcases legs.task? now with ⟨none, none'⟩ | ⟨t, t', ready, ready', twins⟩
    · rw [none, none']
      exact ⟨same, id, .inl ⟨rfl, rfl⟩⟩
    · obtain ⟨rest, rest', further, ran⟩ := twins.advance c c' now
      rw [ready, ready']
      dsimp only
      have fetches : ∀ s s' : Cache V J × Nat,
          SameFetches ρ
            { l with
              fetches := l.fetches.modify i fun p => (p.1, .resting now rest)
              calls := l.calls ++ ((asks? s rest).map (now, ·)).toList }
            { l' with
              fetches := l'.fetches.modify i fun p => (p.1, .resting now rest')
              calls := l'.calls ++ ((asks? s' rest').map (now, ·)).toList } := by
        refine fun s s' => forall₂_modify same fun a b at_i at_i' both => ?_
        cases found.symm.trans at_i
        cases found'.symm.trans at_i'
        exact ⟨both.1, further.resting now⟩
      have calls : ∀ s s' : Cache V J × Nat, l'.calls = l.calls →
          l'.calls ++ ((asks? s' rest').map (now, ·)).toList =
            l.calls ++ ((asks? s rest).map (now, ·)).toList := by
        intro s s' calls
        rw [calls, further.asks?_eq s s']
      rcases ran with ⟨run, run'⟩ | ⟨outcome, run, run'⟩
      · rw [run, run']
        exact ⟨fetches _ _, calls _ _, .inl ⟨rfl, rfl⟩⟩
      · rw [run, run']
        have among : p.1 ∈ l.flights := List.mem_map_of_mem (List.mem_of_getElem? found)
        exact ⟨fetches _ _, calls _ _, .inr ⟨p.1, among, outcome, rfl, number ▸ rfl⟩⟩

end SameFetches

/-! ### What holds of all traffic -/

namespace Traffic

/-- All fetches that have departed. -/
def started (t : Traffic V J) : Set (Flight J) :=
  {f | ∃ key, f ∈ (t.lane key).flights}

/-- All fetches that have departed are in the lane of their key, and readers wait for no others. -/
structure Sound (t : Traffic V J) : Prop where
  quiet : t.cache.departures = []
  ledger : Ledger t.cache t.started
  keyed : ∀ key, ∀ f ∈ (t.lane key).flights, f.key = key
  flying : ∀ key, SameFetches id (t.lane key) (t.lane key)
  awaited : ∀ key id, some (.awaiting id) ∈ (t.lane key).readers →
    ∃ f ∈ (t.lane key).flights, f.id = id

namespace Sound

variable {t : Traffic V J} {key : Key} {c : Cache V J} {l : Lane V J}

theorem empty (settings : CacheSettings) : Sound (Traffic.empty settings : Traffic V J) where
  quiet := rfl
  ledger := by
    have none : (Traffic.empty settings : Traffic V J).started = ∅ :=
      Set.eq_empty_iff_forall_notMem.mpr fun f ⟨_, mem⟩ => nomatch mem
    exact none ▸ .empty settings
  keyed _ f mem := nomatch mem
  flying _ := .nil
  awaited _ id mem := nomatch mem

theorem mem_lane (sound : t.Sound) {f : Flight J} (mem : f ∈ t.started) :
    f ∈ (t.lane f.key).flights := by
  obtain ⟨key, mem⟩ := mem
  rwa [sound.keyed key f mem]

theorem started_update {more : List (Flight J)} (flights : l.flights = (t.lane key).flights ++ more) :
    started ⟨c, Function.update t.lane key l⟩ = t.started ∪ {f | f ∈ more} := by
  ext f
  constructor
  · rintro ⟨k, mem⟩
    by_cases same : k = key
    · subst same
      change f ∈ (Function.update t.lane k l k).flights at mem
      rw [Function.update_self, flights] at mem
      exact (List.mem_append.mp mem).imp (fun old => ⟨k, old⟩) id
    · change f ∈ (Function.update t.lane key l k).flights at mem
      rw [Function.update_of_ne same] at mem
      exact .inl ⟨k, mem⟩
  · have here : ∀ g ∈ (t.lane key).flights ++ more,
        g ∈ started ⟨c, Function.update t.lane key l⟩ := by
      refine fun g mem => ⟨key, ?_⟩
      change g ∈ (Function.update t.lane key l key).flights
      rwa [Function.update_self, flights]
    rintro (⟨k, old⟩ | new)
    · by_cases same : k = key
      · subst same
        exact here f (List.mem_append_left _ old)
      · refine ⟨k, ?_⟩
        change f ∈ (Function.update t.lane key l k).flights
        rwa [Function.update_of_ne same]
    · exact here f (List.mem_append_right _ new)

/-- The traffic is sound when the lane of one key has changed, if the lane is. -/
theorem update (sound : t.Sound) {more : List (Flight J)}
    (flights : l.flights = (t.lane key).flights ++ more) (quiet : c.departures = [])
    (ledger : Ledger c (t.started ∪ {f | f ∈ more})) (keyed : ∀ f ∈ more, f.key = key)
    (flying : SameFetches id l l)
    (awaited : ∀ id, some (.awaiting id) ∈ l.readers → ∃ f ∈ l.flights, f.id = id) :
    Sound ⟨c, Function.update t.lane key l⟩ where
  quiet := quiet
  ledger := started_update flights ▸ ledger
  keyed k f mem := by
    change f ∈ (Function.update t.lane key l k).flights at mem
    by_cases same : k = key
    · subst same
      rw [Function.update_self, flights] at mem
      exact (List.mem_append.mp mem).elim (sound.keyed k f) (keyed f)
    · rw [Function.update_of_ne same] at mem
      exact sound.keyed k f mem
  flying k := by
    change SameFetches id (Function.update t.lane key l k) (Function.update t.lane key l k)
    by_cases same : k = key
    · subst same
      rwa [Function.update_self]
    · rw [Function.update_of_ne same]
      exact sound.flying k
  awaited k := by
    change ∀ id, some (.awaiting id) ∈ (Function.update t.lane key l k).readers →
      ∃ f ∈ (Function.update t.lane key l k).flights, f.id = id
    by_cases same : k = key
    · subst same
      rwa [Function.update_self]
    · rw [Function.update_of_ne same]
      exact sound.awaited k

/-- The traffic is sound when no fetch has departed in a change. -/
theorem update_same (sound : t.Sound) (flights : l.flights = (t.lane key).flights)
    (quiet : c.departures = []) (ledger : Ledger c t.started) (flying : SameFetches id l l)
    (fewer : ∀ id, some (.awaiting id) ∈ l.readers → some (.awaiting id) ∈ (t.lane key).readers) :
    Sound ⟨c, Function.update t.lane key l⟩ := by
  refine sound.update (flights.trans (List.append_nil _).symm) quiet ?_ nofun flying ?_
  · rwa [show t.started ∪ {f | f ∈ ([] : List (Flight J))} = t.started by simp]
  · exact fun id mem => flights ▸ sound.awaited key id (fewer id mem)

theorem read (sound : t.Sound) (key : Key) (now : Nat) (policy : FetchPolicy) (job : J) :
    (t.step (.about key (.read now policy job))).Sound := by
  have ledger := sound.ledger.read now key policy job
  refine sound.update (flights_read ..) rfl ledger.takeDepartures ?_ ?_ ?_
  · exact fun f departed => (departed_of_read sound.quiet departed).1 ▸ rfl
  · refine List.rel_append (sound.flying key) (List.forall₂_same.mpr fun p mem => ⟨rfl, ?_⟩)
    obtain ⟨f, -, rfl⟩ := List.mem_map.mp mem
    exact .ready (.fly _ rfl)
  · intro id mem
    rw [flights_read]
    rcases List.mem_append.mp mem with old | new
    · obtain ⟨f, mem, number⟩ := sound.awaited key id old
      exact ⟨f, List.mem_append_left _ mem, number⟩
    · have waits := Option.some.inj (List.mem_singleton.mp new)
      obtain ⟨-, f, started, number, rfl⟩ := ledger.underway _ id
        (underway?_of_awaiting t.cache now key policy job id waits.symm)
      refine ⟨f, List.mem_append.mpr (started.imp sound.mem_lane fun departed => departed), number⟩

theorem visit (sound : t.Sound) (key : Key) (now i : Nat) :
    (t.step (.about key (.visit now i))).Sound := by
  obtain ⟨flights, readers⟩ := flights_visiting now i t.cache (t.lane key)
  obtain ⟨same, -, ran⟩ := (sound.flying key).visiting now i t.cache t.cache
  have kept : (Errand.visiting now i t.cache (t.lane key)).1.departures = [] ∧
      Ledger (Errand.visiting now i t.cache (t.lane key)).1 t.started := by
    rcases ran with ⟨still, -⟩ | ⟨f, mem, outcome, landed, -⟩
    · rw [still]
      exact ⟨sound.quiet, sound.ledger⟩
    · rw [landed, departures_land]
      exact ⟨sound.quiet, sound.ledger.land now f ⟨key, mem⟩ outcome⟩
  exact sound.update_same flights kept.1 kept.2 same fun id mem => readers ▸ mem

/-- Whatever happens next, the traffic is sound. -/
theorem step (sound : t.Sound) (m : Move V J) : (t.step m).Sound := by
  cases m with
  | about key errand =>
    cases errand with
    | read now policy job => exact sound.read key now policy job
    | leave reader =>
      refine sound.update_same rfl sound.quiet sound.ledger (sound.flying key) fun id mem => ?_
      exact (List.mem_or_eq_of_mem_set mem).resolve_right nofun
    | visit now i => exact sound.visit key now i
    | answer i outcome =>
      exact sound.update_same (map_fst_modify _ i fun _ => rfl) sound.quiet sound.ledger
        ((sound.flying key).answered i outcome) fun id mem => mem
  | invalidate filters =>
    exact ⟨sound.quiet, sound.ledger.invalidate filters, sound.keyed, sound.flying, sound.awaited⟩
  | clear => exact ⟨sound.quiet, sound.ledger.clear, sound.keyed, sound.flying, sound.awaited⟩
  | collect now =>
    exact ⟨sound.quiet, sound.ledger.collect now, sound.keyed, sound.flying, sound.awaited⟩

end Sound

theorem sound_after (settings : CacheSettings) (moves : List (Move V J)) :
    (after settings moves).Sound := by
  induction moves using List.reverseRecOn with
  | nil => exact .empty settings
  | append_singleton moves m ih =>
    rw [after_append]
    exact ih.step m

end Traffic

end Cache

end DbConsole

import DbConsole.Proofs.Cache.Isolation

/-!
The attempts of one fetch. A fetch asks for its job; where no answer arrives and a repetition is left it
sleeps and asks again, and else it lands with what it has been told last.
-/
set_option autoImplicit false

namespace DbConsole.Cache

variable {V J : Type}

/-- No usable answer has come. -/
def Unreached (outcome : Except Error V) : Prop :=
  ∃ cause, outcome = .error (.transport cause)

theorem unreached_error_iff (e : Error) :
    Unreached (.error e : Except Error V) ↔ e.isRetryable = true := by
  cases e <;> simp [Error.isRetryable, Unreached]

theorem not_unreached_ok (v : V) : ¬ Unreached (.ok v) := nofun

/-- The outcome is one to end with behind the failures that came before it. -/
structure Ends (retries : Nat) (failures : List (Except Error V)) (outcome : Except Error V) : Prop where
  failed : ∀ x ∈ failures, Unreached x
  within : failures.length ≤ retries
  final : ¬ Unreached outcome ∨ failures.length = retries

/-! ### The task of a fetch, step by step -/

/-- A fetch that lands. -/
def landing (f : Flight J) (outcome : Except Error V) : FetchTask V J :=
  .wait (fun _ => true)
    (Task.change fun s => Cache.change (fun c => c.land (HasCache.now s) f outcome) s)

/-- What a fetch does with an outcome when it may ask so many times more. -/
def afterwards (delay : Nat) (f : Flight J) : Nat → Except Error V → FetchTask V J
  | left + 1, .error e =>
    if e.isRetryable then .sleep delay (.call (fun _ => f.job) (afterwards delay f left))
    else landing f (.error e)
  | _, outcome => landing f outcome

/-- A fetch that asks and may then ask so many times more. -/
def inquiry (delay : Nat) (f : Flight J) (left : Nat) : FetchTask V J :=
  .call (fun _ => f.job) (afterwards delay f left)

theorem attempts_bind_landing (delay : Nat) (f : Flight J) (left : Nat) :
    (attempts (Task.ask fun _ => f.job) delay left).bind (landing f) =
      (inquiry delay f left : FetchTask V J) := by
  induction left with
  | zero => exact congrArg (Task.call _) (funext fun outcome => by cases outcome <;> rfl)
  | succ left ih =>
    refine congrArg (Task.call _) (funext fun outcome => ?_)
    cases outcome with
    | ok v => rfl
    | error e =>
      by_cases again : e.isRetryable = true
      · simpa [again, afterwards, inquiry, Task.bind] using ih
      · simp [again, afterwards, Task.bind, pure]

theorem fly_eq_inquiry (settings : CacheSettings) (f : Flight J) :
    fly settings f (Task.ask fun _ => f.job) =
      (inquiry settings.retryDelay f settings.retries : FetchTask V J) :=
  attempts_bind_landing settings.retryDelay f settings.retries

/-- Where a fetch stands between its departure and its landing, having been told so much and asked so
often. -/
def Leg.progress (leg : Leg V J) (told asked : Nat) : Nat :=
  2 * (told + asked) + match leg with
    | .asleep _ _ => 1
    | _ => 0

/-- How far a fetch has got: where its task is, what it has been told, how often it has asked and what it
has landed with. -/
inductive Stage (settings : CacheSettings) (f : Flight J) :
    Leg V J → List (Except Error V) → Nat → Option (Except Error V) → Prop
  | due {told : List (Except Error V)} {left : Nat} (failed : ∀ x ∈ told, Unreached x)
      (count : told.length + left = settings.retries) :
      Stage settings f (.ready (inquiry settings.retryDelay f left)) told told.length none
  | asleep (wakeAt : Nat) {told : List (Except Error V)} {left : Nat} (failed : ∀ x ∈ told, Unreached x)
      (count : told.length + left = settings.retries) :
      Stage settings f (.asleep wakeAt (inquiry settings.retryDelay f left)) told told.length none
  | waiting {told : List (Except Error V)} {left : Nat} (failed : ∀ x ∈ told, Unreached x)
      (count : told.length + left = settings.retries) :
      Stage settings f (.asking (afterwards settings.retryDelay f left)) told (told.length + 1) none
  /-- It has been told of a failure that is not the last. -/
  | repelled {told : List (Except Error V)} {left : Nat} (failed : ∀ x ∈ told, Unreached x)
      (count : told.length + left = settings.retries) :
      Stage settings f (.ready (.sleep settings.retryDelay (inquiry settings.retryDelay f left)))
        told told.length none
  | ended {failures : List (Except Error V)} {outcome : Except Error V}
      (ends : Ends settings.retries failures outcome) :
      Stage settings f (.ready (landing f outcome)) (failures ++ [outcome]) (failures.length + 1) none
  | landed {failures : List (Except Error V)} {outcome : Except Error V}
      (ends : Ends settings.retries failures outcome) :
      Stage settings f (.ready (.done ())) (failures ++ [outcome]) (failures.length + 1) (some outcome)

namespace Stage

variable {settings : CacheSettings} {f : Flight J} {leg : Leg V J} {told : List (Except Error V)}
  {asked left now : Nat} {landing : Option (Except Error V)} {t : FetchTask V J}

theorem begin (settings : CacheSettings) (f : Flight J) :
    Stage settings f (.ready (fly settings f (Task.ask fun _ => f.job)) : Leg V J) [] 0 none :=
  fly_eq_inquiry (V := V) settings f ▸ .due nofun (Nat.zero_add _)

theorem afterwards (failed : ∀ x ∈ told, Unreached x) (count : told.length + left = settings.retries)
    (outcome : Except Error V) :
    Stage settings f (.ready (afterwards settings.retryDelay f left outcome)) (told ++ [outcome])
      (told.length + 1) none := by
  have within : told.length ≤ settings.retries := by omega
  cases left with
  | zero =>
    have last : Cache.afterwards settings.retryDelay f 0 outcome = Cache.landing f outcome := by
      cases outcome <;> rfl
    exact last ▸ .ended ⟨failed, within, .inr count⟩
  | succ left =>
    cases outcome with
    | ok v => exact .ended ⟨failed, within, .inl (not_unreached_ok v)⟩
    | error e =>
      by_cases again : e.isRetryable = true
      · have unreached := (unreached_error_iff (V := V) e).mpr again
        have all : ∀ x ∈ told ++ [.error e], Unreached x := by
          simpa [or_imp, forall_and] using ⟨failed, unreached⟩
        rw [Cache.afterwards, if_pos again]
        have fewer : (told ++ [Except.error e]).length + left = settings.retries := by
          rw [List.length_append, List.length_singleton]
          omega
        simpa [inquiry] using @Stage.repelled _ _ settings f _ _ all fewer
      · rw [Cache.afterwards, if_neg again]
        exact .ended ⟨failed, within, .inl (mt (unreached_error_iff e).mp again)⟩

theorem progress_le (stage : Stage settings f leg told asked landing) :
    leg.progress told.length asked ≤ 4 * (settings.retries + 1) := by
  cases stage with
  | due | asleep | waiting | repelled => simp only [Leg.progress]; omega
  | ended ends | landed ends =>
    have within := ends.within
    simp only [Leg.progress, List.length_append, List.length_singleton]
    omega

/-- Being told something brings a fetch on that has asked and no other. -/
theorem answered (stage : Stage settings f leg told asked landing) (outcome : Except Error V) :
    (∃ next, leg = .asking next ∧
      Stage settings f (leg.answered outcome) (told ++ [outcome]) asked landing ∧
      leg.progress told.length asked <
        (leg.answered outcome).progress (told ++ [outcome]).length asked) ∨
    (∀ next, leg ≠ .asking next) ∧ leg.answered outcome = leg := by
  cases stage with
  | waiting failed count =>
    refine .inl ⟨_, rfl, .afterwards failed count outcome, ?_⟩
    simp only [Leg.progress, List.length_append, List.length_singleton]
    omega
  | due | asleep | repelled | ended | landed => exact .inr ⟨nofun, rfl⟩

/-- A visit brings a fetch on, which may ask in it, or lets it land. -/
theorem visited (stage : Stage settings f leg told asked landing) (ready : leg.task? now = some t)
    (c : Cache V J) :
    ∃ rest, (t.advance (c, now) = ((c, now), rest) ∧
        Stage settings f (.resting now rest) told (asked + (asks? (c, now) rest).toList.length) landing ∧
        (landing = none → leg.progress told.length asked <
          (Leg.resting now rest).progress told.length (asked + (asks? (c, now) rest).toList.length))) ∨
      ∃ outcome, landing = none ∧ t.advance (c, now) = ((c.land now f outcome, now), rest) ∧
        asks? (c.land now f outcome, now) rest = none ∧
        Stage settings f (.resting now rest) told asked (some outcome) := by
  cases stage with
  | due failed count =>
    cases ready
    refine ⟨_, .inl ⟨rfl, .waiting failed count, fun _ => ?_⟩⟩
    simp only [Leg.progress, Leg.resting, asks?, inquiry, Option.toList_some, List.length_singleton]
    omega
  | asleep wakeAt failed count =>
    rw [Leg.task?] at ready
    split at ready
    · cases ready
      refine ⟨_, .inl ⟨rfl, .waiting failed count, fun _ => ?_⟩⟩
      simp only [Leg.progress, Leg.resting, asks?, inquiry, Option.toList_some, List.length_singleton]
      omega
    · cases ready
  | waiting => cases ready
  | repelled failed count =>
    cases ready
    refine ⟨_, .inl ⟨rfl, .asleep _ failed count, fun _ => ?_⟩⟩
    simp [Leg.progress, Leg.resting, asks?]
  | ended ends =>
    cases ready
    exact ⟨_, .inr ⟨_, rfl, rfl, rfl, .landed ends⟩⟩
  | landed ends =>
    cases ready
    exact ⟨_, .inl ⟨rfl, .landed ends, nofun⟩⟩

end Stage

end DbConsole.Cache

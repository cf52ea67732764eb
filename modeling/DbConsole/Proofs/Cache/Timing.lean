import DbConsole.Cli.Config
import DbConsole.Proofs.Cache.Isolation
import DbConsole.Proofs.Cache.Run

/-!
What the timing of a cache is like when it comes from options that have been checked. Times that are
both given are consistent. A time for which values stay fresh is not compared with the time for which
entries are kept where that is left to its default, and then a collection can take a fresh entry away.
-/
set_option autoImplicit false

namespace DbConsole

/-! ### Collections and fresh entries -/

namespace Cache

variable {V J : Type}

theorem Run.settings_cache (r : Run V J) (n : Nat) : (r.cache n).settings = r.settings := by
  induction n with
  | zero => rfl
  | succ n ih =>
    rw [r.cache_succ]
    cases r.event n with
    | read now key policy job => exact (settings_read _ _ _ _ _).trans ih
    | land now flight outcome => exact (settings_land _ _ _ _).trans ih
    | _ => exact ih

/-- What a collection takes away is not used. -/
theorem Run.not_isUsed_of_collected (r : Run V J) {n now : Nat} {key : Key} {e : Entry V}
    (collects : r.event n = .collect now) (found : (r.cache n).lookup? key = some e)
    (gone : (r.cache (n + 1)).lookup? key = none) : (r.cache n).isUsed now e = false := by
  rw [r.cache_succ, collects] at gone
  change ((r.cache n).collect now).lookup? key = none at gone
  rw [lookup?_collect_eq _ _ _ (r.ledger n).once, found, Option.filter_some] at gone
  cases used : (r.cache n).isUsed now e with
  | false => rfl
  | true =>
    rw [used, if_pos rfl] at gone
    cases gone

/-- No collection takes an entry away that would be served as it is, unless its value has come in
behind its last reading. -/
def KeepsFresh (V J : Type) (settings : CacheSettings) : Prop :=
  ∀ r : Run V J, r.settings = settings → ∀ n now key e, r.event n = .collect now →
    (r.cache n).lookup? key = some e → (r.cache (n + 1)).lookup? key = none →
    e.isFresh now settings.staleTime = true → ∃ stored, e.updatedAt = some stored ∧ e.readAt < stored

theorem keepsFresh_of_le {settings : CacheSettings}
    (consistent : settings.staleTime ≤ settings.gcTime) : KeepsFresh V J settings := by
  rintro r rfl n now key e collects found gone fresh
  have unused := r.not_isUsed_of_collected collects found gone
  rw [isUsed, r.settings_cache, Bool.or_eq_false_iff, decide_eq_false_iff_not] at unused
  rw [Entry.isFresh, Bool.and_eq_true] at fresh
  cases stored : e.updatedAt with
  | none =>
    rw [stored] at fresh
    cases fresh.2
  | some t =>
    rw [stored] at fresh
    have young : now - t < r.settings.staleTime := of_decide_eq_true fresh.2
    exact ⟨t, rfl, by omega⟩

/-- A key is read and its value stored at once; after the time for which entries are kept a collection
follows. -/
def unread (settings : CacheSettings) (v : V) (j : J) : Run V J where
  settings := settings
  event
    | 0 => .read 0 .tables .cached j
    | 1 => .land 0 ⟨1, .tables, 0, j⟩ (.ok v)
    | 2 => .collect settings.gcTime
    | _ => .leave 0
  lands := by
    intro n now flight outcome happens
    match n with
    | 1 => cases happens; exact ⟨List.mem_cons_self, rfl⟩
    | 0 | 2 | _ + 3 => cases happens

/-- The entry that is collected. -/
def unreadEntry (v : V) : Entry V :=
  ⟨some v, some 0, false, 0, none, none, 0⟩

theorem unread_collected (settings : CacheSettings) (v : V) (j : J) :
    ((unread settings v j).cache 2).lookup? .tables = some (unreadEntry v) ∧
      ((unread settings v j).cache 3).lookup? .tables = none := by
  let r := unread settings v j
  have found : (r.cache 2).lookup? .tables = some (unreadEntry v) := rfl
  have unused : (r.cache 2).isUsed settings.gcTime (unreadEntry v) = false := by
    rw [isUsed, r.settings_cache]
    exact decide_eq_false (Nat.lt_irrefl _)
  refine ⟨found, ?_⟩
  change ((r.cache 2).collect settings.gcTime).lookup? .tables = none
  rw [lookup?_collect_eq _ _ _ (r.ledger 2).once, found, Option.filter_some, unused]
  rfl

/-- Fresh entries are kept just if entries are kept for as long as values stay fresh. -/
theorem keepsFresh_iff [Inhabited V] [Inhabited J] (settings : CacheSettings) :
    KeepsFresh V J settings ↔ settings.staleTime ≤ settings.gcTime := by
  refine ⟨fun keeps => ?_, keepsFresh_of_le⟩
  by_contra longer
  have ⟨found, gone⟩ := unread_collected settings (default : V) (default : J)
  have fresh : (unreadEntry (default : V)).isFresh settings.gcTime settings.staleTime = true :=
    decide_eq_true (Nat.lt_of_not_le longer)
  obtain ⟨stored, at_, late⟩ := keeps _ rfl 2 settings.gcTime .tables _ rfl found gone fresh
  cases at_
  exact Nat.lt_irrefl 0 late

end Cache

/-! ### Options that have been checked -/

namespace CacheOptions

variable (o : CacheOptions)

/-- The options of a cache are checked as they are given: the time for which entries are kept is long
enough, and the repetitions are not too many. -/
theorem validate_eq_ok_iff : o.validate = .ok () ↔
    (∀ gc, o.gcSeconds = some gc → gc ≠ 0 ∧ o.stale ≤ gc.toNat) ∧
      ∀ n, o.retries = some n → n.toNat ≤ CacheSettings.maxRetries := by
  unfold validate
  cases o.gcSeconds with
  | none =>
    cases o.retries with
    | none => simp [pure, Except.pure]
    | some n => simp [pure, Except.pure]
  | some gc =>
    by_cases zero : gc = 0
    · simp [zero, bind, Except.bind]
    by_cases short : gc.toNat < o.stale
    · have reversed : ¬o.stale ≤ gc.toNat := Nat.not_le.mpr short
      simp [zero, short, reversed, bind, Except.bind]
    · have longer : o.stale ≤ gc.toNat := Nat.not_lt.mp short
      cases o.retries with
      | none => simp [zero, short, longer, pure, Except.pure]
      | some n => simp [zero, short, longer, pure, Except.pure]

variable {o : CacheOptions}

theorem gc_pos (valid : o.validate = .ok ()) : 0 < o.gc := by
  have ⟨given, _⟩ := o.validate_eq_ok_iff.mp valid
  rw [gc]
  cases gc : o.gcSeconds with
  | none => exact (by decide : 0 < CacheSettings.defaultGcSeconds)
  | some seconds =>
    exact Nat.pos_of_ne_zero fun zero => (given seconds gc).1 (UInt64.toNat_inj.mp zero)

theorem retryCount_le (valid : o.validate = .ok ()) : o.retryCount ≤ CacheSettings.maxRetries := by
  have ⟨_, given⟩ := o.validate_eq_ok_iff.mp valid
  rw [retryCount]
  cases retries : o.retries with
  | none => exact (by decide : CacheSettings.defaultRetries ≤ CacheSettings.maxRetries)
  | some n => exact given n retries

/-- A time for which entries are kept that is given is long enough; the default need not be. -/
theorem stale_le_gc_iff (valid : o.validate = .ok ()) :
    o.stale ≤ o.gc ↔ (o.gcSeconds = none → o.stale ≤ CacheSettings.defaultGcSeconds) := by
  have ⟨given, _⟩ := o.validate_eq_ok_iff.mp valid
  rw [gc]
  cases gc : o.gcSeconds with
  | none => exact ⟨fun enough _ => enough, fun enough => enough rfl⟩
  | some seconds => exact ⟨fun _ => nofun, fun _ => (given seconds gc).2⟩

end CacheOptions

theorem Console.cache_of_create {address : String} {tokens : TokenStore} {settings : CacheSettings}
    {timeout : Option Nat} {console : Console}
    (made : Console.create address tokens settings timeout = .ok console) :
    console.cache = .empty settings := by
  unfold Console.create at made
  cases base : baseUrl address with
  | error fault =>
    rw [base] at made
    cases made
  | ok url =>
    rw [base] at made
    cases made
    rfl

/-- A console made from a configuration has the timing that its options ask for, and they have been
checked. -/
theorem Console.cache_of_ofConfig {config : Config} {tokens : TokenStore} {console : Console}
    (made : Console.ofConfig config tokens = .ok console) :
    config.cacheOptions.validate = .ok () ∧ console.cache = .empty config.cacheOptions.settings := by
  unfold Console.ofConfig at made
  dsimp only at made
  cases checked : config.cacheOptions.validate with
  | error fault =>
    rw [checked] at made
    cases made
  | ok =>
    rw [checked] at made
    simp only [Except.mapError, bind, Except.bind] at made
    exact ⟨rfl, cache_of_create made⟩

namespace CacheOptions

/-- Settings from options that have been checked keep entries for some time and repeat reads no more
often than allowed. They keep entries for as long as values stay fresh, and so no collection takes an
entry away that is fresh since before it was last read, just if the time for which entries are kept is
given or its default is long enough. A console made from a configuration has such settings. -/
theorem keeps_fresh_iff {V J : Type} [Inhabited V] [Inhabited J] (o : CacheOptions)
    (valid : o.validate = .ok ()) :
    0 < o.settings.gcTime ∧ o.settings.retries ≤ CacheSettings.maxRetries ∧
      (o.settings.staleTime ≤ o.settings.gcTime ↔
        (o.gcSeconds = none → o.stale ≤ CacheSettings.defaultGcSeconds)) ∧
      (Cache.KeepsFresh V J o.settings ↔
        (o.gcSeconds = none → o.stale ≤ CacheSettings.defaultGcSeconds)) ∧
      ∀ (config : Config) (tokens : TokenStore) (console : Console), config.cacheOptions = o →
        Console.ofConfig config tokens = .ok console → console.cache = .empty o.settings := by
  have compared : o.settings.staleTime ≤ o.settings.gcTime ↔
      (o.gcSeconds = none → o.stale ≤ CacheSettings.defaultGcSeconds) := by
    rw [← stale_le_gc_iff valid]
    exact Nat.mul_le_mul_left_iff (by decide)
  refine ⟨Nat.mul_pos (by decide) (gc_pos valid), retryCount_le valid, compared, ?_, ?_⟩
  · rw [Cache.keepsFresh_iff, compared]
  · rintro config tokens console rfl made
    exact (Console.cache_of_ofConfig made).2

/-- Fresh for an hour and kept for as long. -/
def hourKept : CacheOptions :=
  ⟨some 3600, some 3600, some 10, none⟩

theorem hourKept_keeps_fresh :
    hourKept.validate = .ok () ∧ 0 < hourKept.settings.gcTime ∧
      hourKept.settings.retries ≤ CacheSettings.maxRetries ∧
      hourKept.settings.staleTime ≤ hourKept.settings.gcTime ∧
      Cache.KeepsFresh String Unit hourKept.settings := by
  have valid : hourKept.validate = .ok () := rfl
  have ⟨kept, repeated, enough, keeps, _⟩ := keeps_fresh_iff (V := String) (J := Unit) hourKept valid
  exact ⟨valid, kept, repeated, enough.mpr nofun, keeps.mpr nofun⟩

/-- Fresh for an hour and kept for as long as is usual. -/
def hourFresh : CacheOptions :=
  ⟨some 3600, none, none, none⟩

/-- Options under which values stay fresh for longer than entries are kept pass the check, and a
collection takes away an entry that is still fresh. -/
theorem hourFresh_collected_fresh :
    hourFresh.validate = .ok () ∧ hourFresh.settings.gcTime < hourFresh.settings.staleTime ∧
      let r : Cache.Run String Unit := Cache.unread hourFresh.settings "users" ()
      r.settings = hourFresh.settings ∧ r.event 2 = .collect 1800000 ∧
        (r.cache 2).lookup? .tables = some ⟨some "users", some 0, false, 0, none, none, 0⟩ ∧
        (r.cache 3).lookup? .tables = none ∧
        (Cache.unreadEntry "users").isFresh 1800000 hourFresh.settings.staleTime = true ∧
        ¬Cache.KeepsFresh String Unit hourFresh.settings := by
  have ⟨found, gone⟩ := Cache.unread_collected hourFresh.settings "users" ()
  refine ⟨rfl, by decide, rfl, rfl, found, gone, rfl, ?_⟩
  rw [Cache.keepsFresh_iff]
  decide

end CacheOptions

end DbConsole

import DbConsole.Json.Shape.Read
import Mathlib.Data.List.DropRight

/-!
Readers that stop at the same place wherever both succeed, however different what they find and
however they fail.
-/
set_option autoImplicit false

namespace DbConsole.Json.Reader

variable {α β γ δ : Type}

/-- Where both readers succeed they stop at the same place. -/
def SameStop (r : Reader α) (r' : Reader β) : Prop :=
  ∀ s a s₁ b s₂, r s = .ok (a, s₁) → r' s = .ok (b, s₂) → s₁ = s₂

/-- The reader stays where it is. -/
def Still (r : Reader α) : Prop :=
  ∀ s a s₁, r s = .ok (a, s₁) → s₁ = s

def Fails (r : Reader α) : Prop :=
  ∀ s a s₁, r s ≠ .ok (a, s₁)

theorem bind_eq_ok {r : Reader α} {f : α → Reader β} {s s₁ : Source} {b : β} :
    (r >>= f) s = .ok (b, s₁) ↔ ∃ a s', r s = .ok (a, s') ∧ f a s' = .ok (b, s₁) := by
  change (r s >>= fun x => f x.1 x.2) = _ ↔ _
  cases read : r s with
  | error e =>
    constructor
    · rintro ⟨⟩
    · rintro ⟨_, _, ⟨⟩, _⟩
  | ok x =>
    constructor
    · exact fun taken => ⟨x.1, x.2, rfl, taken⟩
    · rintro ⟨_, _, ⟨⟩, taken⟩
      exact taken

section Calculus

variable {r : Reader α} {r' : Reader β} {f : α → Reader γ} {g : β → Reader δ}

namespace Fails

theorem failAt (place : Place) (cause : Cause) : Fails (failAt (α := α) place cause) := by
  rintro _ _ _ ⟨⟩

theorem fail (cause : Cause) : Fails (fail (α := α) cause) := by
  rintro _ _ _ ⟨⟩

theorem failNext (cause : Cause) : Fails (failNext (α := α) cause) := by
  rintro _ _ _ ⟨⟩

theorem bind (first : Fails r) (f : α → Reader γ) : Fails (r >>= f) := by
  intro s b s₁ taken
  obtain ⟨a, s', read, -⟩ := bind_eq_ok.mp taken
  exact first s a s' read

theorem behind (later : ∀ a, Fails (f a)) : Fails (r >>= f) := by
  intro s b s₁ taken
  obtain ⟨a, s', -, read⟩ := bind_eq_ok.mp taken
  exact later a s' b s₁ read

end Fails

namespace Still

theorem pure (a : α) : Still (Pure.pure a) := by
  rintro s _ _ ⟨⟩
  rfl

theorem of_fails (fails : Fails r) : Still r :=
  fun s a s₁ read => absurd read (fails s a s₁)

theorem settle (found : Except Cause α) : Still (settle found) := by
  cases found with
  | ok a => exact .pure a
  | error cause => exact .of_fails (.fail cause)

theorem atLarge (found : Except Cause α) : Still (atLarge found) := by
  intro s a s₁ taken
  cases found with
  | ok a =>
    cases taken
    rfl
  | error cause => cases taken

theorem ite {p : Prop} [Decidable p] {t : Reader α} (first : Still r) (second : Still t) :
    Still (if p then r else t) := by
  split
  · exact first
  · exact second

theorem length : Still length := by
  rintro s _ _ ⟨⟩
  rfl

theorem peek : Still peek := by
  rintro s _ _ ⟨⟩
  rfl

end Still

namespace SameStop

theorem refl (r : Reader α) : SameStop r r := by
  intro s a s₁ b s₂ read read'
  cases read.symm.trans read'
  rfl

theorem symm (same : SameStop r r') : SameStop r' r :=
  fun s b s₂ a s₁ read read' => (same s a s₁ b s₂ read' read).symm

theorem of_fails (fails : Fails r) (r' : Reader β) : SameStop r r' :=
  fun s a s₁ _ _ read _ => absurd read (fails s a s₁)

theorem of_fails' (r : Reader α) (fails : Fails r') : SameStop r r' :=
  (of_fails fails r).symm

theorem of_still (still : Still r) (still' : Still r') : SameStop r r' := by
  intro s a s₁ b s₂ read read'
  rw [still s a s₁ read, still' s b s₂ read']

theorem bind (first : SameStop r r') (later : ∀ a b, SameStop (f a) (g b)) :
    SameStop (r >>= f) (r' >>= g) := by
  intro s c s₁ d s₂ taken taken'
  obtain ⟨a, t, read, onward⟩ := bind_eq_ok.mp taken
  obtain ⟨b, t', read', onward'⟩ := bind_eq_ok.mp taken'
  obtain rfl := first s a t b t' read read'
  exact later a b t c s₁ d s₂ onward onward'

/-- After a reader that both have in common both go on from its value. -/
theorem onward {f : α → Reader γ} {g : α → Reader δ} (later : ∀ a, SameStop (f a) (g a)) :
    SameStop (r >>= f) (r >>= g) := by
  intro s c s₁ d s₂ taken taken'
  obtain ⟨a, t, read, onward⟩ := bind_eq_ok.mp taken
  obtain ⟨b, t', read', onward'⟩ := bind_eq_ok.mp taken'
  cases read.symm.trans read'
  exact later a t c s₁ d s₂ onward onward'

theorem behind_still (first : Still r) (later : ∀ a, SameStop (f a) r') :
    SameStop (r >>= f) r' := by
  intro s c s₁ b s₂ taken read'
  obtain ⟨a, t, read, onward⟩ := bind_eq_ok.mp taken
  obtain rfl := first s a t read
  exact later a t c s₁ b s₂ onward read'

theorem then_still (same : SameStop r r') (later : ∀ a, Still (f a)) : SameStop (r >>= f) r' := by
  intro s c s₁ b s₂ taken read'
  obtain ⟨a, t, read, onward⟩ := bind_eq_ok.mp taken
  rw [later a t c s₁ onward]
  exact same s a t b s₂ read read'

theorem keeping {g : α → γ} (same : SameStop (do let _ ← r; skip) r') :
    SameStop (do let a ← r; skip; return g a) r' := by
  intro s c s₁ b s₂ taken read'
  obtain ⟨a, t, read, onward⟩ := bind_eq_ok.mp taken
  obtain ⟨_, u, skipped, done⟩ := bind_eq_ok.mp onward
  obtain ⟨-, rfl⟩ := Prod.mk.inj (Except.ok.inj done)
  exact same s () u b s₂ (bind_eq_ok.mpr ⟨a, t, read, skipped⟩) read'

theorem ite {p : Prop} [Decidable p] {t : Reader α} {t' : Reader β} (holds : p → SameStop r r')
    (fails : ¬p → SameStop t t') : SameStop (if p then r else t) (if p then r' else t') := by
  split
  · exact holds ‹p›
  · exact fails ‹¬p›

end SameStop

end Calculus

theorem fails_wrongType (expected : String) : Fails (wrongType (α := α) expected) := by
  refine .behind fun o => ?_
  split
  · exact .behind fun _ => .behind fun _ => .fail _
  · exact .behind fun _ => .behind fun _ => .fail _
  · exact .behind fun _ => .behind fun _ => .fail _
  · exact .behind fun _ => .behind fun _ => .fail _
  · exact .fail _
  · exact .fail _
  · split
    · exact .behind fun _ => .fail _
    · exact .failNext _
  · exact .failNext _

theorem fails_failClosing (close : Char) (cause : Cause) :
    Fails (failClosing (α := α) close cause) := by
  refine .behind fun o => ?_
  split
  · split
    · exact .behind fun _ => .fail _
    · split
      · exact .behind fun _ => .behind fun _ => .fail _
      · exact .fail _
  · exact .fail _

/-! ### White space -/

theorem next_eq (s : Source) :
    next s = .ok ((s.rest.dropWhile isSpace).head?,
      ⟨s.rest.dropWhile isSpace, s.place.afterAll (s.rest.takeWhile isSpace)⟩) :=
  rfl

/-- Behind white space there is no more of it. -/
theorem next_again {s t : Source} {o : Option Char} (read : next s = .ok (o, t)) :
    next t = .ok (o, t) := by
  cases read
  have left : (s.rest.dropWhile isSpace).dropWhile isSpace = s.rest.dropWhile isSpace :=
    List.dropWhile_idempotent isSpace s.rest
  have taken : (s.rest.dropWhile isSpace).takeWhile isSpace = [] := by
    have whole := @List.takeWhile_append_dropWhile _ isSpace (s.rest.dropWhile isSpace)
    rw [left] at whole
    exact List.append_left_eq_self.mp whole
  rw [next_eq, left, taken]
  rfl

theorem bind_of_ok {r : Reader α} {f : α → Reader β} {s t : Source} {a : α}
    (read : r s = .ok (a, t)) : (r >>= f) s = f a t := by
  change (r s >>= fun x => f x.1 x.2) = _
  rw [read]
  rfl

/-- A reader that begins with white space may begin behind it. -/
theorem next_bind {f : Option Char → Reader α} {s t : Source} {o : Option Char}
    (read : next s = .ok (o, t)) : (next >>= f) s = (next >>= f) t := by
  rw [bind_of_ok read, bind_of_ok (next_again read)]

/-! ### Between the members of lists and objects -/

/-- Where a list ends or goes on: at its bracket, at its first item, or behind a comma. -/
theorem moreItems_eq_ok {first more : Bool} {s t : Source} (read : moreItems first s = .ok (more, t)) :
    (more = false ∧ next s = .ok (some ']', t)) ∨
      more = true ∧ ∃ c, c ≠ ']' ∧
        ((first = true ∧ next s = .ok (some c, t)) ∨
          first = false ∧ ∃ u v, next s = .ok (some ',', u) ∧ skip u = .ok ((), v) ∧
            next v = .ok (some c, t)) := by
  obtain ⟨o, u, spaces, read⟩ := bind_eq_ok.mp read
  split at read
  case h_1 => cases read
  case h_2 =>
    cases read
    exact .inl ⟨rfl, spaces⟩
  case h_3 c other =>
    split at read
    case isTrue begins =>
      cases read
      exact .inr ⟨rfl, c, other, .inl ⟨begins, spaces⟩⟩
    case isFalse goes =>
    split at read
    case isFalse => cases read
    case isTrue comma =>
      obtain ⟨_, v, skipped, read⟩ := bind_eq_ok.mp read
      obtain ⟨o, w, spaces', read⟩ := bind_eq_ok.mp read
      split at read
      case h_1 => cases read
      case h_2 => cases read
      case h_3 c other =>
        cases read
        exact .inr ⟨rfl, c, other,
          .inr ⟨Bool.eq_false_iff.mpr goes, u, v, comma ▸ spaces, skipped, spaces'⟩⟩

/-- Where an object ends or goes on: at its brace, at its first key, or behind a comma. -/
theorem moreFields_eq_ok {first more : Bool} {s t : Source}
    (read : moreFields first s = .ok (more, t)) :
    (more = false ∧ next s = .ok (some '\x7d', t)) ∨
      more = true ∧
        ((first = true ∧ next s = .ok (some '"', t)) ∨
          first = false ∧ ∃ u v, next s = .ok (some ',', u) ∧ skip u = .ok ((), v) ∧
            next v = .ok (some '"', t)) := by
  obtain ⟨o, u, spaces, read⟩ := bind_eq_ok.mp read
  split at read
  case h_1 => cases read
  case h_2 =>
    cases read
    exact .inl ⟨rfl, spaces⟩
  case h_3 c other =>
    split at read
    case isTrue begins =>
      split at read
      case isFalse => cases read
      case isTrue quote =>
        cases read
        exact .inr ⟨rfl, .inl ⟨begins, quote ▸ spaces⟩⟩
    case isFalse goes =>
    split at read
    case isFalse => cases read
    case isTrue comma =>
      obtain ⟨_, v, skipped, read⟩ := bind_eq_ok.mp read
      obtain ⟨o, w, spaces', read⟩ := bind_eq_ok.mp read
      split at read
      case h_2 =>
        cases read
        exact .inr ⟨rfl, .inr ⟨Bool.eq_false_iff.mpr goes, u, v, comma ▸ spaces, skipped,
          spaces'⟩⟩
      all_goals cases read

/-- A key begins right where an object goes on. -/
theorem moreFields_next {first : Bool} {s t : Source} (goes : moreFields first s = .ok (true, t)) :
    next t = .ok (some '"', t) := by
  obtain ⟨⟨⟩, _⟩ | ⟨-, ⟨-, spaces⟩ | ⟨-, _, _, -, -, spaces⟩⟩ := moreFields_eq_ok goes
  · exact next_again spaces
  · exact next_again spaces

/-- What is left of a list, its closing bracket included. -/
def restOfList (item : Reader α) (fuel : Nat) (first : Bool) : Reader Unit := do
  let _ ← items item fuel first
  skip

/-- What is left of an object, its closing brace included. -/
def restOfObject (item : Reader α) (fuel : Nat) (first : Bool) : Reader Unit := do
  let _ ← fields item fuel first
  skip

section Rest

variable {item : Reader α} {fuel : Nat} {first : Bool} {s t : Source}

theorem fails_restOfList : Fails (restOfList item 0 first) :=
  .bind (.fail _) _

theorem fails_restOfObject : Fails (restOfObject item 0 first) :=
  .bind (.fail _) _

theorem restOfList_eq_ok (read : restOfList item (fuel + 1) first s = .ok ((), t)) :
    (∃ u, moreItems first s = .ok (false, u) ∧ skip u = .ok ((), t)) ∨
      ∃ u a v, moreItems first s = .ok (true, u) ∧ item u = .ok (a, v) ∧
        restOfList item fuel false v = .ok ((), t) := by
  obtain ⟨as, u, read, closed⟩ := bind_eq_ok.mp read
  obtain ⟨more, v, goes, read⟩ := bind_eq_ok.mp read
  cases more with
  | false =>
    cases read
    exact .inl ⟨u, goes, closed⟩
  | true =>
    obtain ⟨a, w, taken, read⟩ := bind_eq_ok.mp read
    obtain ⟨as', x, others, done⟩ := bind_eq_ok.mp read
    cases done
    exact .inr ⟨v, a, w, goes, taken, bind_eq_ok.mpr ⟨as', u, others, closed⟩⟩

theorem restOfObject_eq_ok (read : restOfObject item (fuel + 1) first s = .ok ((), t)) :
    (∃ u, moreFields first s = .ok (false, u) ∧ skip u = .ok ((), t)) ∨
      ∃ u k v w a x, moreFields first s = .ok (true, u) ∧ key u = .ok (k, v) ∧
        colon v = .ok ((), w) ∧ item w = .ok (a, x) ∧
          restOfObject item fuel false x = .ok ((), t) := by
  obtain ⟨as, u, read, closed⟩ := bind_eq_ok.mp read
  obtain ⟨more, v, goes, read⟩ := bind_eq_ok.mp read
  cases more with
  | false =>
    cases read
    exact .inl ⟨u, goes, closed⟩
  | true =>
    obtain ⟨k, w, named, read⟩ := bind_eq_ok.mp read
    obtain ⟨_, x, parted, read⟩ := bind_eq_ok.mp read
    obtain ⟨a, y, taken, read⟩ := bind_eq_ok.mp read
    obtain ⟨as', z, others, done⟩ := bind_eq_ok.mp read
    cases done
    exact .inr ⟨v, k, w, x, a, y, goes, named, parted, taken,
      bind_eq_ok.mpr ⟨as', u, others, closed⟩⟩

end Rest

end DbConsole.Json.Reader

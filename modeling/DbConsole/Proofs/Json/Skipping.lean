import DbConsole.Proofs.Json.SameStop

/-!
A value that is passed over ends where it ends when it is read.
-/
set_option autoImplicit false

namespace DbConsole.Json.Reader

/-! ### Strings -/

theorem pairMark_eq_ok {mark : Char} {s s₁ : Source} (taken : pairMark mark s = .ok ((), s₁)) :
    peek s = .ok (some mark, s) ∧ skip s = .ok ((), s₁) := by
  obtain ⟨o, t, peeked, onward⟩ := bind_eq_ok.mp taken
  obtain rfl := Still.peek s o t peeked
  cases o with
  | none => cases onward
  | some c =>
    change (if c = mark then skip else failNext .unpairedSurrogate) t = _ at onward
    split at onward
    case isTrue same => exact ⟨same ▸ peeked, onward⟩
    case isFalse => cases onward

/-- The escapes that are one character behind the backslash. -/
def Mark (c : Char) : Prop :=
  c = '"' ∨ c = '\\' ∨ c = '/' ∨ c = 'b' ∨ c = 'f' ∨ c = 'n' ∨ c = 'r' ∨ c = 't'

/-- What an escape is: a single character, or four digits, with a second such escape behind them
where they are half a pair. -/
theorem escape_eq_ok {s s₁ : Source} {e : Char} (read : escape s = .ok (e, s₁)) :
    (∃ c, peek s = .ok (some c, s) ∧ Mark c ∧ skip s = .ok ((), s₁)) ∨
      ∃ u v high, peek s = .ok (some 'u', s) ∧ skip s = .ok ((), u) ∧ fourHex u = .ok (high, v) ∧
        (s₁ = v ∨ ∃ w x low, peek v = .ok (some '\\', v) ∧ skip v = .ok ((), w) ∧
          peek w = .ok (some 'u', w) ∧ skip w = .ok ((), x) ∧ fourHex x = .ok (low, s₁)) := by
  obtain ⟨o, t, peeked, read⟩ := bind_eq_ok.mp read
  obtain rfl := Still.peek s o t peeked
  cases o with
  | none => cases read
  | some c =>
    have marked (e' : Char) (mark : Mark c) (read : (do skip; return e') t = .ok (e, s₁)) :
        ∃ c, peek t = .ok (some c, t) ∧ Mark c ∧ skip t = .ok ((), s₁) := by
      obtain ⟨_, _, skipped, done⟩ := bind_eq_ok.mp read
      cases done
      exact ⟨c, peeked, mark, skipped⟩
    dsimp only at read
    split at read
    case isTrue mark =>
      exact .inl (marked c (by rcases mark with h | h | h <;> simp [Mark, h]) read)
    split at read
    case isTrue mark => exact .inl (marked _ (by simp [Mark, mark]) read)
    split at read
    case isTrue mark => exact .inl (marked _ (by simp [Mark, mark]) read)
    split at read
    case isTrue mark => exact .inl (marked _ (by simp [Mark, mark]) read)
    split at read
    case isTrue mark => exact .inl (marked _ (by simp [Mark, mark]) read)
    split at read
    case isTrue mark => exact .inl (marked _ (by simp [Mark, mark]) read)
    split at read
    case isFalse => cases read
    case isTrue letter =>
      subst letter
      obtain ⟨_, u, skipped, read⟩ := bind_eq_ok.mp read
      obtain ⟨high, v, digits, read⟩ := bind_eq_ok.mp read
      refine .inr ⟨u, v, high, peeked, skipped, digits, ?_⟩
      split at read
      case isTrue => cases read
      split at read
      case isTrue =>
        cases read
        exact .inl rfl
      case isFalse =>
        obtain ⟨_, w, slash, read⟩ := bind_eq_ok.mp read
        obtain ⟨_, x, letter, read⟩ := bind_eq_ok.mp read
        obtain ⟨low, y, digits', read⟩ := bind_eq_ok.mp read
        split at read
        case isTrue => cases read
        case isFalse =>
          obtain ⟨-, rfl⟩ := Prod.mk.inj (Except.ok.inj read)
          obtain ⟨peeked', skipped'⟩ := pairMark_eq_ok slash
          obtain ⟨peeked'', skipped''⟩ := pairMark_eq_ok letter
          exact .inr ⟨w, x, low, peeked', skipped', peeked'', skipped'', digits'⟩

theorem skipEscape_of_mark {s : Source} {c : Char} (peeked : peek s = .ok (some c, s))
    (mark : Mark c) : skipEscape s = skip s :=
  (bind_of_ok peeked).trans (congrFun (if_pos mark) s)

theorem skipEscape_of_u {s u : Source} (peeked : peek s = .ok (some 'u', s))
    (skipped : skip s = .ok ((), u)) : skipEscape s = (do let _ ← fourHex : Reader Unit) u :=
  (bind_of_ok peeked).trans (bind_of_ok skipped)

theorem skipString_of_backslash {s t : Source} {fuel : Nat} (peeked : peek s = .ok (some '\\', s))
    (skipped : skip s = .ok ((), t)) :
    skipString (fuel + 1) s = (do skipEscape; skipString fuel) t :=
  (bind_of_ok peeked).trans (bind_of_ok skipped)

/-- An escape that is read takes with it what is passed over as one escape or as two. -/
theorem skipString_behind_escape {s s₁ s₂ t : Source} {e : Char} {fuel : Nat}
    (read : escape s = .ok (e, s₁)) (passed : skipEscape s = .ok ((), s₂))
    (onward : skipString fuel s₂ = .ok ((), t)) : ∃ fuel', skipString fuel' s₁ = .ok ((), t) := by
  rcases escape_eq_ok read with ⟨c, peeked, mark, skipped⟩ | ⟨u, v, high, peeked, skipped, digits, ends⟩
  · rw [skipEscape_of_mark peeked mark] at passed
    cases skipped.symm.trans passed
    exact ⟨fuel, onward⟩
  · rw [skipEscape_of_u peeked skipped] at passed
    obtain ⟨high', v', digits', done⟩ := bind_eq_ok.mp passed
    cases done
    cases digits.symm.trans digits'
    obtain rfl | ⟨w, x, low, peeked, skipped, peeked', skipped', digits⟩ := ends
    · exact ⟨fuel, onward⟩
    · cases fuel with
      | zero => cases onward
      | succ fuel =>
        rw [skipString_of_backslash peeked skipped] at onward
        obtain ⟨_, y, passed, onward⟩ := bind_eq_ok.mp onward
        rw [skipEscape_of_u peeked' skipped'] at passed
        obtain ⟨low', y', digits', done⟩ := bind_eq_ok.mp passed
        cases done
        cases digits.symm.trans digits'
        exact ⟨fuel, onward⟩

theorem sameStop_stringBody (fuel fuel' : Nat) (acc : List Char) :
    SameStop (stringBody fuel acc) (skipString fuel') := by
  induction fuel generalizing fuel' acc with
  | zero => exact .of_fails (.fail _) _
  | succ fuel ih =>
    cases fuel' with
    | zero => exact .of_fails' _ (.fail _)
    | succ fuel' =>
      refine .onward fun o => ?_
      cases o with
      | none => exact .of_fails (.fail _) _
      | some c =>
        dsimp only
        by_cases quote : c = '"'
        · rw [if_pos quote, if_pos quote]
          exact .then_still (.refl _) fun _ => .pure _
        rw [if_neg quote, if_neg quote]
        by_cases slash : c = '\\'
        · rw [if_pos slash, if_pos slash]
          refine .onward fun _ => ?_
          intro s a s₁ _ s₂ taken passed
          obtain ⟨e, t, read, onward⟩ := bind_eq_ok.mp taken
          obtain ⟨_, t', passed, onward'⟩ := bind_eq_ok.mp passed
          obtain ⟨fuel'', onward'⟩ := skipString_behind_escape read passed onward'
          exact ih fuel'' (e :: acc) t a s₁ () s₂ onward onward'
        rw [if_neg slash, if_neg slash]
        by_cases control : c.toNat < 32
        · rw [if_pos control]
          exact .of_fails (.failNext _) _
        · rw [if_neg control, if_neg control]
          exact .onward fun _ => ih fuel' (c :: acc)

theorem sameStop_string : SameStop string (do skipString ((← length) + 1)) := by
  unfold string
  refine .onward fun n => ?_
  refine .then_still (sameStop_stringBody (n + 1) (n + 1) []) fun _ => ?_
  exact .pure _

/-! ### Numbers -/

-- An equation of the function itself, since the kernel evaluates the product with a huge number that
-- its body holds wherever the body is compared as it is.
theorem realFrom_eq : realFrom = fun negative digits exponent =>
    match (Binary64.ofNat? digits).bind fun x => scale? x exponent with
    | some x => pure (.real (if negative then x.neg else x))
    | none => fail .numberOutOfRange := by
  delta realFrom
  rfl

theorem still_realFrom (negative : Bool) (digits : Nat) (exponent : Int) :
    Still (realFrom negative digits exponent) := by
  rw [realFrom_eq]
  dsimp only
  generalize ((Binary64.ofNat? digits).bind fun x => scale? x exponent) = found
  cases found with
  | some x => exact .pure _
  | none => exact .of_fails (.fail _)

/-- A sign may stand before what comes later. -/
theorem SameStop.behind_sign {α β : Type} {p : Prop} [Decidable p] {f : Unit → Reader α}
    {g : Unit → Reader β} (later : ∀ u, SameStop (f u) (g u)) :
    SameStop (if p then skip >>= f else f ()) (if p then skip >>= g else g ()) :=
  .ite (fun _ => .onward later) fun _ => later ()

theorem sameStop_exponentPart (negative : Bool) (digits : Nat) (exponent : Int) :
    SameStop (exponentPart negative digits exponent) skipExponent := by
  unfold exponentPart skipExponent
  refine .onward fun _ => .behind_still .peek fun minus => .onward fun o => .onward fun o' => ?_
  refine .behind_sign fun _ => .onward fun o => ?_
  cases o with
  | none => exact .of_fails (.fail _) _
  | some c =>
    dsimp only
    cases digit : Text.isAsciiDigit c with
    | false => exact .of_fails (.failNext _) _
    | true =>
      refine .behind_still ?_ fun here => .onward fun ds => ?_
      · rintro s _ _ ⟨⟩
        rfl
      -- What becomes of the digits moves neither reader.
      refine .of_still ?_ (.pure ())
      exact .ite (still_realFrom _ _ _) (.ite (.of_fails (.failAt _ _)) (.pure _))

section Branches

variable {α β : Type} {exponent rest : Reader α} {exponent' rest' : Reader β}

/-- What comes behind the digits is the same branch for both. -/
theorem SameStop.at_exponent (o : Option Char) (exponents : SameStop exponent exponent')
    (rests : SameStop rest rest') :
    SameStop
      (match o with
      | some 'e' | some 'E' => exponent
      | _ => rest)
      (match o with
      | some 'e' | some 'E' => exponent'
      | _ => rest') := by
  split
  · exact exponents
  · exact exponents
  · exact rests

theorem SameStop.at_point {point : Reader α} {point' : Reader β} (o : Option Char)
    (points : SameStop point point') (exponents : SameStop exponent exponent')
    (rests : SameStop rest rest') :
    SameStop
      (match o with
      | some '.' => point
      | some 'e' | some 'E' => exponent
      | _ => rest)
      (match o with
      | some '.' => point'
      | some 'e' | some 'E' => exponent'
      | _ => rest') := by
  split
  · exact points
  · exact exponents
  · exact exponents
  · exact rests

end Branches

theorem sameStop_afterDigits (negative : Bool) (digits : Nat) (exponent : Int) :
    SameStop (afterDigits negative digits exponent) (do
      match ← peek with
      | some 'e' | some 'E' => skipExponent
      | _ => pure ()) := by
  refine .onward fun o => .at_exponent o (sameStop_exponentPart _ _ _) ?_
  exact .of_still (still_realFrom _ _ _) (.pure ())

theorem sameStop_decimalPart (negative : Bool) (digits : Nat) (exponent : Int) :
    SameStop (decimalPart negative digits exponent) (do
      skip
      let places ← takeWhile Text.isAsciiDigit
      if places.isEmpty then failNext .invalidNumber
      else
        match ← peek with
        | some 'e' | some 'E' => skipExponent
        | _ => pure () : Reader Unit) := by
  unfold decimalPart
  refine .onward fun _ => .onward fun places => .ite (fun _ => ?_) fun _ => ?_
  · exact .of_fails' _ (.failNext _)
  · exact sameStop_afterDigits _ _ _

/-- No digit follows a zero, and any number of them another digit. -/
theorem SameStop.behind_digit {α β : Type} {first : Char} {f : List Char → Reader α} {r : Reader β}
    (later : ∀ more, SameStop (f more) r) :
    SameStop
      (if first = '0' then pure [] >>= f else takeWhile Text.isAsciiDigit >>= f)
      (if (first != '0') = true then (takeWhile Text.isAsciiDigit >>= fun _ => r) else r) := by
  by_cases zero : first = '0'
  · rw [if_pos zero, if_neg (by simp [zero])]
    exact .behind_still (.pure []) later
  · rw [if_neg zero, if_pos (bne_iff_ne.mpr zero)]
    exact .onward later

theorem sameStop_unsignedNumber (negative : Bool) :
    SameStop (unsignedNumber negative) skipNumber := by
  unfold unsignedNumber skipNumber
  refine .onward fun o => ?_
  cases o with
  | none => exact .of_fails (.fail _) _
  | some first =>
    dsimp only
    refine .ite (fun _ => .of_fails (.failNext _) _) fun _ => .onward fun _ => .onward fun o => ?_
    refine .ite (fun _ => .of_fails (.failNext _) _) fun _ => .behind_digit fun more => ?_
    refine .onward fun o => .at_point o (sameStop_decimalPart _ _ _) (sameStop_exponentPart _ _ _) ?_
    exact .of_still (.ite (still_realFrom _ _ _) (.ite (.pure _) (.ite (.pure _) (.ite (.pure _)
      (still_realFrom _ _ _))))) (.pure ())

/-! ### Values -/

/-- What the walk over a value does behind a value inside, or behind the whole. -/
def resume (fuel : Nat) (open_ : List Bracket) : Reader Unit :=
  match open_ with
  | [] => pure ()
  | _ => skipLoop fuel (.closing true) open_

/-- Where both succeed, the walk goes on from where the reader stops. -/
def Precedes {α : Type} (open_ : List Bracket) (r : Reader α) (walk : Reader Unit) : Prop :=
  ∀ s a s₁ t, r s = .ok (a, s₁) → walk s = .ok ((), t) →
    ∃ fuel, resume fuel open_ s₁ = .ok ((), t)

namespace Precedes

variable {α β γ : Type} {open_ : List Bracket} {r : Reader α} {walk : Reader Unit}

theorem of_sameStop {r' : Reader β} (same : SameStop r r') (fuel : Nat) :
    Precedes open_ r (r' >>= fun _ => resume fuel open_) := by
  intro s a s₁ t read passed
  obtain ⟨b, s₂, read', onward⟩ := bind_eq_ok.mp passed
  obtain rfl := same s a s₁ b s₂ read read'
  exact ⟨fuel, onward⟩

theorem of_fails (fails : Fails r) (walk : Reader Unit) : Precedes open_ r walk :=
  fun s a s₁ _ read _ => absurd read (fails s a s₁)

theorem of_fails' (r : Reader α) (fails : Fails walk) : Precedes open_ r walk :=
  fun s _ _ t _ passed => absurd passed (fails s () t)

theorem onward {f : α → Reader β} {g : α → Reader Unit} (later : ∀ a, Precedes open_ (f a) (g a)) :
    Precedes open_ (r >>= f) (r >>= g) := by
  intro s b s₁ t taken passed
  obtain ⟨a, u, read, onward⟩ := bind_eq_ok.mp taken
  obtain ⟨a', u', read', onward'⟩ := bind_eq_ok.mp passed
  cases read.symm.trans read'
  exact later a u b s₁ t onward onward'

theorem behind_still {f : α → Reader β} (first : Still r) (later : ∀ a, Precedes open_ (f a) walk) :
    Precedes open_ (r >>= f) walk := by
  intro s b s₁ t taken passed
  obtain ⟨a, u, read, onward⟩ := bind_eq_ok.mp taken
  obtain rfl := first s a u read
  exact later a u b s₁ t onward passed

theorem keeping {g : α → β} (first : Precedes open_ (do let _ ← r; skip) walk) :
    Precedes open_ (do let a ← r; skip; return g a) walk := by
  intro s b s₁ t taken passed
  obtain ⟨a, u, read, onward⟩ := bind_eq_ok.mp taken
  obtain ⟨_, v, skipped, done⟩ := bind_eq_ok.mp onward
  obtain ⟨-, rfl⟩ := Prod.mk.inj (Except.ok.inj done)
  exact first s () v t (bind_eq_ok.mpr ⟨a, u, read, skipped⟩) passed

theorem then_still {f : α → Reader β} (first : Precedes open_ r walk) (later : ∀ a, Still (f a)) :
    Precedes open_ (r >>= f) walk := by
  intro s b s₁ t taken passed
  obtain ⟨a, u, read, onward⟩ := bind_eq_ok.mp taken
  rw [later a u b s₁ onward]
  exact first s a u t read passed

end Precedes

theorem skipLoop_value_next {s t : Source} {o : Option Char} (spaces : next s = .ok (o, t))
    {fuel : Nat} {open_ : List Bracket} {r : Unit × Source}
    (passed : skipLoop fuel .value open_ s = .ok r) : skipLoop fuel .value open_ t = .ok r := by
  cases fuel with
  | zero => cases passed
  | succ fuel =>
    unfold skipLoop at passed ⊢
    rwa [next_bind spaces] at passed

def Bracket.close : Bracket → Char
  | .list => ']'
  | .object => '\x7d'

section Closing

variable {s t : Source} {c : Char} {bracket : Bracket}

theorem skipLoop_close (closes : next s = .ok (some bracket.close, t)) (fuel : Nat) (passed : Bool)
    (outer : List Bracket) :
    skipLoop (fuel + 1) (.closing passed) (bracket :: outer) s = (do skip; resume fuel outer) t := by
  refine (bind_of_ok closes).trans ?_
  cases bracket <;> rfl

theorem skipLoop_first (opens : next s = .ok (some c, t)) (goes : c ≠ bracket.close) (fuel : Nat)
    (outer : List Bracket) :
    skipLoop (fuel + 1) (.closing false) (bracket :: outer) s =
      (do memberKey bracket; skipLoop fuel .value (bracket :: outer)) t := by
  have open_ : ¬((bracket = .list ∧ c = ']') ∨ (bracket = .object ∧ c = '\x7d')) := by
    rintro (⟨rfl, rfl⟩ | ⟨rfl, rfl⟩) <;> exact goes rfl
  exact (bind_of_ok opens).trans (congrFun ((if_neg open_).trans (if_neg Bool.false_ne_true)) t)

theorem skipLoop_comma (comma : next s = .ok (some ',', t)) (fuel : Nat) (outer : List Bracket) :
    skipLoop (fuel + 1) (.closing true) (bracket :: outer) s =
      (do skip; memberKey bracket; skipLoop fuel .value (bracket :: outer)) t := by
  refine (bind_of_ok comma).trans ?_
  cases bracket <;> rfl

end Closing

/-- At the closing bracket a container ends for both. -/
theorem resume_closed {s t u s₁ : Source} {bracket : Bracket} {passed : Bool} {fuel : Nat}
    {outer : List Bracket} (closes : next s = .ok (some bracket.close, u))
    (closed : skip u = .ok ((), s₁))
    (walked : skipLoop fuel (.closing passed) (bracket :: outer) s = .ok ((), t)) :
    ∃ fuel, resume fuel outer s₁ = .ok ((), t) := by
  cases fuel with
  | zero => cases walked
  | succ fuel =>
    have onward := (skipLoop_close closes fuel passed outer).symm.trans walked
    exact ⟨fuel, (bind_of_ok closed).symm.trans onward⟩

section Members

variable {s t u : Source} {first : Bool} {fuel : Nat} {outer : List Bracket}

/-- Where a list goes on, the walk comes to the same value. -/
theorem skipLoop_item (goes : moreItems first s = .ok (true, u))
    (passed : skipLoop fuel (.closing !first) (.list :: outer) s = .ok ((), t)) :
    ∃ fuel', skipLoop fuel' .value (.list :: outer) u = .ok ((), t) := by
  cases fuel with
  | zero => cases passed
  | succ fuel =>
    obtain ⟨⟨⟩, _⟩ | ⟨_, c, inside, ⟨rfl, opens⟩ | ⟨rfl, v, w, comma, skipped, spaces⟩⟩ :=
      moreItems_eq_ok goes
    · exact ⟨fuel, (@skipLoop_first _ _ _ .list opens inside fuel outer).symm.trans passed⟩
    · have onward := (bind_of_ok skipped).symm.trans
        ((skipLoop_comma comma fuel outer).symm.trans passed)
      exact ⟨fuel, skipLoop_value_next spaces onward⟩

/-- Where an object goes on, the walk comes to the same key. -/
theorem skipLoop_field (goes : moreFields first s = .ok (true, u))
    (passed : skipLoop fuel (.closing !first) (.object :: outer) s = .ok ((), t)) :
    ∃ fuel', (do memberKey .object; skipLoop fuel' .value (.object :: outer)) u = .ok ((), t) := by
  cases fuel with
  | zero => cases passed
  | succ fuel =>
    obtain ⟨⟨⟩, _⟩ | ⟨_, ⟨rfl, opens⟩ | ⟨rfl, v, w, comma, skipped, spaces⟩⟩ :=
      moreFields_eq_ok goes
    · have inside : '"' ≠ Bracket.object.close := by decide
      exact ⟨fuel, (skipLoop_first opens inside fuel outer).symm.trans passed⟩
    · have onward := (bind_of_ok skipped).symm.trans
        ((skipLoop_comma comma fuel outer).symm.trans passed)
      obtain ⟨_, x, named, onward⟩ := bind_eq_ok.mp onward
      refine ⟨fuel, bind_eq_ok.mpr ⟨(), x, ?_, onward⟩⟩
      exact (next_bind spaces).symm.trans named

/-- The key of a member and its colon are passed over as they are read. -/
theorem sameStop_memberKey (quote : next s = .ok (some '"', s)) {k : String} {v : Source}
    (named : key s = .ok (k, u)) (parted : colon u = .ok ((), v))
    (passed : memberKey .object s = .ok ((), t)) : v = t := by
  obtain ⟨_, w, skipped, read⟩ := bind_eq_ok.mp named
  have onward := (bind_of_ok skipped).symm.trans ((bind_of_ok quote).symm.trans passed)
  obtain ⟨n, w', measured, onward⟩ := bind_eq_ok.mp onward
  obtain ⟨_, x, passed, onward⟩ := bind_eq_ok.mp onward
  obtain rfl := sameStop_string w k u () x read (bind_eq_ok.mpr ⟨n, w', measured, passed⟩)
  refine SameStop.onward (fun o => ?_) u () v () t parted onward
  split
  case h_1 => exact .of_fails (.failNext _) _
  case h_2 => exact .refl _
  case h_3 => exact .of_fails (.failNext _) _

variable {α : Type} {item : Reader α}
  (each : ∀ fuel open_, Precedes open_ item (skipLoop fuel .value open_))
include each

theorem precedes_restOfList (n fuel : Nat) (first : Bool) (outer : List Bracket) :
    Precedes outer (restOfList item n first) (skipLoop fuel (.closing !first) (.list :: outer)) := by
  induction n generalizing fuel first with
  | zero => exact .of_fails fails_restOfList _
  | succ n ih =>
    intro s _ s₁ t read passed
    obtain ⟨u, ends, closed⟩ | ⟨u, a, v, goes, taken, others⟩ := restOfList_eq_ok read
    · obtain ⟨-, closes⟩ | ⟨⟨⟩, _⟩ := moreItems_eq_ok ends
      exact resume_closed closes closed passed
    · obtain ⟨fuel, passed⟩ := skipLoop_item goes passed
      obtain ⟨fuel, passed⟩ := each fuel (.list :: outer) u a v t taken passed
      exact ih fuel false v () s₁ t others passed

theorem precedes_restOfObject (n fuel : Nat) (first : Bool) (outer : List Bracket) :
    Precedes outer (restOfObject item n first)
      (skipLoop fuel (.closing !first) (.object :: outer)) := by
  induction n generalizing fuel first with
  | zero => exact .of_fails fails_restOfObject _
  | succ n ih =>
    intro s _ s₁ t read passed
    obtain ⟨u, ends, closed⟩ | ⟨u, k, v, w, a, x, goes, named, parted, taken, others⟩ :=
      restOfObject_eq_ok read
    · obtain ⟨-, closes⟩ | ⟨⟨⟩, _⟩ := moreFields_eq_ok ends
      exact resume_closed closes closed passed
    · obtain ⟨fuel, passed⟩ := skipLoop_field goes passed
      obtain ⟨_, w', named', passed⟩ := bind_eq_ok.mp passed
      obtain rfl := sameStop_memberKey (moreFields_next goes) named parted named'
      obtain ⟨fuel, passed⟩ := each fuel (.object :: outer) w a x t taken passed
      exact ih fuel false x () s₁ t others passed

end Members

theorem precedes_value (depth fuel : Nat) (open_ : List Bracket) :
    Precedes open_ (verbatim depth) (skipLoop fuel .value open_) := by
  induction depth using Nat.strongRecOn generalizing fuel open_ with
  | _ depth ih =>
  cases fuel with
  | zero => exact .of_fails' _ (.fail _)
  | succ fuel =>
    unfold verbatim skipLoop
    refine .onward fun o => ?_
    split
    case h_1 => exact .of_fails (.failNext _) _
    case h_2 | h_3 | h_4 =>
      exact .onward fun _ => .then_still (.of_sameStop (.refl _) fuel) fun _ => .pure _
    case h_5 =>
      exact .onward fun _ => .then_still (.of_sameStop sameStop_string fuel) fun _ => .pure _
    case h_6 =>
      cases depth with
      | zero => exact .of_fails (.failNext _) _
      | succ d =>
        refine .then_still (.onward fun _ => .behind_still .length fun n => ?_) fun _ => .pure _
        exact .keeping <| precedes_restOfList (ih d (Nat.lt_succ_self d)) (n + 1) fuel true open_
    case h_7 =>
      cases depth with
      | zero => exact .of_fails (.failNext _) _
      | succ d =>
        refine .then_still (.onward fun _ => .behind_still .length fun n => ?_) fun _ => .pure _
        exact .keeping <| precedes_restOfObject (ih d (Nat.lt_succ_self d)) (n + 1) fuel true open_
    case h_8 c n t f q l o =>
      split
      case isFalse => exact .of_fails (.failNext _) _
      case isTrue numeric =>
      refine .then_still ?_ fun _ => .pure _
      unfold number
      split
      case isTrue minus =>
        subst minus
        exact .onward fun _ => .of_sameStop (sameStop_unsignedNumber true) fuel
      case isFalse plus =>
        have digit : Text.isAsciiDigit c = true := numeric.resolve_left plus
        split
        case h_9 c' _ _ _ _ _ _ _ same =>
          obtain rfl := Option.some.inj same
          rw [if_pos digit]
          exact .of_sameStop (sameStop_unsignedNumber false) fuel
        case h_1 same => cases same
        case h_2 same => exact absurd (Option.some.inj same) n
        case h_3 same => exact absurd (Option.some.inj same) t
        case h_4 same => exact absurd (Option.some.inj same) f
        case h_5 same => exact absurd (Option.some.inj same) plus
        case h_6 same => exact absurd (Option.some.inj same) q
        case h_7 same => exact absurd (Option.some.inj same) l
        case h_8 same => exact absurd (Option.some.inj same) o

/-- A value that is passed over ends where it ends when it is read. -/
theorem sameStop_skipValue (depth : Nat) : SameStop skipValue (verbatim depth) := by
  intro s _ s₁ j s₂ passed read
  obtain ⟨n, u, measured, passed⟩ := bind_eq_ok.mp passed
  cases measured
  obtain ⟨fuel, done⟩ := precedes_value depth _ [] s j s₂ s₁ read passed
  cases done
  rfl

end DbConsole.Json.Reader

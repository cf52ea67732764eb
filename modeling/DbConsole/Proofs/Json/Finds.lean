import DbConsole.Proofs.Json.Numbers
import DbConsole.Proofs.Json.Skipping
import DbConsole.Proofs.Number.Spelling

/-!
What a reader finds if it finds anything. The text of a number is taken as a whole, whether or not the
number that comes of it is the one that was written.
-/
set_option autoImplicit false

namespace DbConsole

namespace Json.Reader

variable {α β : Type}

/-- If the reader succeeds, what it finds is good, and it stops before what is left. -/
def Finds (r : Reader α) (before : List Char) (good : α → Prop) (after : List Char) : Prop :=
  ∀ p a t, r ⟨before, p⟩ = .ok (a, t) → good a ∧ t.rest = after

namespace Finds

variable {r : Reader α} {f : α → Reader β} {a : α} {before between after : List Char}
  {good : α → Prop} {good' : β → Prop}

theorem of_fails (fails : Fails r) : Finds r before good after :=
  fun p a t read => absurd read (fails ⟨before, p⟩ a t)

theorem of_takes (taken : Takes r before a after) (held : good a) : Finds r before good after := by
  intro p b t read
  obtain ⟨p', same⟩ := taken p
  cases same.symm.trans read
  exact ⟨held, rfl⟩

theorem of_still (still : Still r) (cs : List Char) : Finds r cs (fun _ => True) cs :=
  fun p a t read => ⟨trivial, congrArg Source.rest (still ⟨cs, p⟩ a t read)⟩

theorem pure {a : α} {cs : List Char} (held : good a) : Finds (Pure.pure a) cs good cs :=
  of_takes (.pure a cs) held

theorem bind (first : Finds r before good between)
    (later : ∀ a, good a → Finds (f a) between good' after) :
    Finds (r >>= f) before good' after := by
  intro p b t read
  obtain ⟨a, ⟨_, p'⟩, found, onward⟩ := bind_eq_ok.mp read
  obtain ⟨held, rfl⟩ := first p a _ found
  exact later a held p' b t onward

theorem behind (taken : Takes r before a between) (later : Finds (f a) between good' after) :
    Finds (r >>= f) before good' after := by
  have found : Finds r before (· = a) between := of_takes taken rfl
  refine found.bind ?_
  rintro _ rfl
  exact later

theorem ite {p : Prop} [Decidable p] {r' : Reader α} (holds : p → Finds r before good after)
    (fails : ¬p → Finds r' before good after) : Finds (if p then r else r') before good after := by
  split
  · exact holds ‹p›
  · exact fails ‹¬p›

end Finds

/-! ### Numbers -/

section Numbers

open Number

variable {negative : Bool} {digits : Nat} {exponent : Int} {c sign : Char}
  {cs ds rest : List Char}

theorem parted_of_exponent (exponent : Exponent cs) (ends : Ends rest) : Parted (cs ++ rest) := by
  cases exponent with
  | none => exact ends.parted
  | some _ _ =>
    rintro _ ⟨⟩
    rfl

theorem parted_of_tail (tail : Tail cs) (ends : Ends rest) : Parted (cs ++ rest) := by
  cases tail with
  | exponent exponent => exact parted_of_exponent exponent ends
  | point _ _ =>
    rintro _ ⟨⟩
    rfl

theorem finds_behind_sign {p : Prop} [Decidable p] {f : Unit → Reader α} {good : α → Prop}
    {between after : List Char} (signed : p) (later : Finds (f ()) between good after) :
    Finds (if p then skip >>= f else f ()) (sign :: between) good after := by
  rw [if_pos signed]
  exact .behind (.skip sign between) later

theorem finds_exponentPart (signed : sign = '-' ∨ sign = '+') (all : AllDigits ds)
    (ends : Ends rest) :
    Finds (exponentPart negative digits exponent) ('e' :: sign :: (ds ++ rest)) (fun _ => True)
      rest := by
  have isSign : ((sign :: (ds ++ rest)).head? == some '-' ||
      (sign :: (ds ++ rest)).head? == some '+') = true := by
    rcases signed with rfl | rfl <;> rfl
  unfold exponentPart
  refine .behind (.skip _ _) (.behind (.peek _) (.behind (.peek _) (.behind (.peek _) ?_)))
  refine finds_behind_sign isSign (.behind (.peek _) ?_)
  cases (ds ++ rest).head? with
  | none => exact .of_fails (.fail _)
  | some c =>
    refine .ite (fun _ => .of_fails (.failNext _)) fun _ => ?_
    refine .bind (.of_still ?_ _) fun here _ => .behind (takes_digits all ends.parted) ?_
    · rintro s _ _ ⟨⟩
      rfl
    · exact .of_still (.ite (still_realFrom _ _ _) (.ite (.of_fails (.failAt _ _)) (.pure _))) rest

theorem finds_afterDigits (tail : Exponent cs) (ends : Ends rest) :
    Finds (afterDigits negative digits exponent) (cs ++ rest) (fun _ => True) rest := by
  unfold afterDigits
  refine .behind (.peek _) ?_
  cases tail with
  | none =>
    rw [List.nil_append]
    split
    · rename_i next
      exact absurd rfl (ends 'e' next).2.2.1
    · rename_i next
      exact absurd rfl (ends 'E' next).2.2.2
    · exact .of_still (still_realFrom _ _ _) rest
  | some signed all => exact finds_exponentPart signed all ends

theorem finds_decimalPart (all : AllDigits ds) (tail : Exponent cs) (ends : Ends rest) :
    Finds (decimalPart negative digits exponent) ('.' :: (ds ++ cs ++ rest)) (fun _ => True)
      rest := by
  unfold decimalPart
  rw [List.append_assoc]
  refine .behind (.skip _ _) (.behind (takes_digits all (parted_of_exponent tail ends)) ?_)
  refine .ite (fun _ => .behind (.peek _) ?_) fun _ => finds_afterDigits tail ends
  split
  · exact .of_fails (.failNext _)
  · exact .of_fails (.failNext _)

/-- No digit follows a zero, and any number of them another digit. -/
theorem finds_behind_digits {f : List Char → Reader α} {good : α → Prop}
    {between after : List Char} (alone : c = '0' → ds = []) (all : AllDigits ds)
    (parted : Parted between) (later : Finds (f ds) between good after) :
    Finds (if c = '0' then pure [] >>= f else takeWhile Text.isAsciiDigit >>= f)
      (ds ++ between) good after := by
  refine .ite (fun zero => ?_) fun _ => .behind (takes_digits all parted) later
  cases alone zero
  exact .behind (.pure [] between) later

theorem finds_unsignedNumber (numeral : Numeral cs) (ends : Ends rest) :
    Finds (unsignedNumber negative) (cs ++ rest) (fun _ => True) rest := by
  cases numeral with
  | @intro c ds tail all behind =>
  have others : AllDigits ds := all.of_subset (List.subset_cons_self c ds)
  unfold unsignedNumber
  rw [List.cons_append, List.append_assoc]
  refine .behind (.peek _) (.ite (fun _ => .of_fails (.failNext _)) fun _ => ?_)
  refine .behind (.skip _ _) (.behind (.peek _) (.ite (fun _ => .of_fails (.failNext _)) ?_))
  intro single
  refine finds_behind_digits ?_ others (parted_of_tail behind ends) ?_
  · rintro rfl
    cases ds with
    | nil => rfl
    | cons d ds =>
      have digit : Text.isAsciiDigit d = true := others d List.mem_cons_self
      exact absurd (by simp [digit]) single
  · dsimp only
    generalize accumulate (Notation.digitValue c) ds = found
    obtain ⟨digits, dropped⟩ := found
    refine .behind (.peek _) ?_
    cases behind with
    | point all exponent => exact finds_decimalPart all exponent ends
    | exponent exponent =>
      cases exponent with
      | some signed all => exact finds_exponentPart signed all ends
      | none =>
        rw [List.nil_append]
        split
        · rename_i next
          exact absurd rfl (ends '.' next).2.1
        · rename_i next
          exact absurd rfl (ends 'e' next).2.2.1
        · rename_i next
          exact absurd rfl (ends 'E' next).2.2.2
        · exact .of_still (.ite (still_realFrom _ _ _) (.ite (.pure _) (.ite (.pure _)
            (.ite (.pure _) (still_realFrom _ _ _))))) rest

/-- The text of a number begins with the sign or with a digit. -/
theorem finds_number (n : Number) (ends : Ends rest) :
    ∃ c cs, n.text.toList ++ rest = c :: cs ∧ (c = '-' ∨ Text.isAsciiDigit c = true) ∧
      Finds (number c) (c :: cs) (fun _ => True) rest := by
  obtain ⟨_, numeral, sign | none⟩ := exists_numeral n
  · rw [sign]
    exact ⟨'-', _, rfl, .inl rfl, .ite (fun _ => .behind (.skip '-' _)
      (finds_unsignedNumber numeral ends)) fun other => absurd rfl other⟩
  · rw [none]
    obtain ⟨all, behind⟩ := id numeral
    rename_i c ds tail
    have digit : Text.isAsciiDigit c = true := all c List.mem_cons_self
    refine ⟨c, _, rfl, .inr digit, .ite (fun dash => ?_) fun _ =>
      finds_unsignedNumber numeral ends⟩
    rw [dash] at digit
    cases digit

end Numbers

end Json.Reader

end DbConsole

import DbConsole.Proofs.Json.Strings
import DbConsole.Proofs.Number.Digits

/-!
A whole number that 64 bits hold is read back from its digits.
-/
set_option autoImplicit false

namespace DbConsole

/-- Whether the number is whole and 64 bits hold it, with or without a sign. -/
def Number.fits : Number → Bool
  | .whole n => decide (-(Nat.pow 2 63 : Int) ≤ n ∧ n < Nat.pow 2 64)
  | .real _ => false

theorem cast_two_pow_63 : ((Nat.pow 2 63 : Nat) : Int) = 9223372036854775808 :=
  rfl

theorem cast_two_pow_64 : ((Nat.pow 2 64 : Nat) : Int) = 18446744073709551616 :=
  rfl

theorem Number.fits_whole_iff {n : Int} : (Number.whole n).fits = true ↔
    -9223372036854775808 ≤ n ∧ n < 18446744073709551616 := by
  rw [fits, cast_two_pow_63, cast_two_pow_64, decide_eq_true_iff]

namespace Json.Reader

/-- What may follow a number: nothing that could go on with it. -/
def Ends (rest : List Char) : Prop :=
  ∀ c ∈ rest.head?, Text.isAsciiDigit c = false ∧ c ≠ '.' ∧ c ≠ 'e' ∧ c ≠ 'E'

/-- What may follow digits: no other one. -/
def Parted (rest : List Char) : Prop :=
  ∀ c ∈ rest.head?, Text.isAsciiDigit c = false

theorem Ends.parted {rest : List Char} (ends : Ends rest) : Parted rest :=
  fun c next => (ends c next).1

theorem toDigits_eq_zero_cons {n : Nat} {cs : List Char} (leading : Nat.toDigits 10 n = '0' :: cs) :
    n = 0 ∧ cs = [] := by
  induction n using Nat.strongRecOn generalizing cs with
  | ind n ih =>
    rw [Nat.toDigits_eq_if (by decide)] at leading
    split at leading
    case isTrue small =>
      obtain ⟨digit, rfl⟩ := List.cons.inj leading
      exact ⟨Nat.digitChar_eq_zero.mp digit, rfl⟩
    case isFalse large =>
      exfalso
      cases split : Nat.toDigits 10 (n / 10) with
      | nil => exact Nat.toDigits_ne_nil split
      | cons d ds =>
        rw [split] at leading
        obtain ⟨rfl, -⟩ := List.cons.inj leading
        have := (ih (n / 10) (by omega) split).1
        omega

theorem le_ofDigitChars (ds : List Char) (n : Nat) : n ≤ Nat.ofDigitChars 10 ds n := by
  rw [Nat.ofDigitChars_eq_ofDigitChars_zero]
  exact Nat.le_trans (Nat.le_mul_of_pos_left n (Nat.pow_pos (by decide))) (Nat.le_add_right _ _)

/-- Digits of a number below `2 ^ 64` all fit. -/
theorem accumulate_eq {n : Nat} {ds : List Char} (small : Nat.ofDigitChars 10 ds n < Nat.pow 2 64) :
    accumulate n ds = (Nat.ofDigitChars 10 ds n, []) := by
  induction ds generalizing n with
  | nil => rfl
  | cons d ds ih =>
    have grows : 10 * n + Notation.digitValue d ≤ Nat.ofDigitChars 10 (d :: ds) n :=
      le_ofDigitChars ds _
    rw [accumulate, if_pos (Nat.lt_of_le_of_lt grows small)]
    exact ih small

variable {n : Nat} {rest : List Char}

section Scan

variable {ds : List Char}

theorem takeWhile_digits (digits : AllDigits ds) (parted : Parted rest) :
    (ds ++ rest).takeWhile Text.isAsciiDigit = ds := by
  rw [List.takeWhile_append_of_pos (p := Text.isAsciiDigit) digits]
  cases rest with
  | nil => rw [List.takeWhile_nil, List.append_nil]
  | cons c rest =>
    rw [List.takeWhile_cons_of_neg (by simp [parted c rfl]), List.append_nil]

theorem dropWhile_digits (digits : AllDigits ds) (parted : Parted rest) :
    (ds ++ rest).dropWhile Text.isAsciiDigit = rest := by
  rw [List.dropWhile_append_of_pos (p := Text.isAsciiDigit) digits]
  cases rest with
  | nil => rfl
  | cons c rest => rw [List.dropWhile_cons_of_neg (by simp [parted c rfl])]

theorem takes_digits (digits : AllDigits ds) (parted : Parted rest) :
    Takes (takeWhile Text.isAsciiDigit) (ds ++ rest) ds rest := by
  have taken := Takes.takeWhile Text.isAsciiDigit (ds ++ rest)
  rwa [takeWhile_digits digits parted, dropWhile_digits digits parted] at taken

/-- A zero ends a number, and any other first digit goes on to the last one. -/
theorem takes_moreDigits {β : Type} {k : List Char → Reader β} {b : β} {after : List Char}
    {first : Char} (whole : Nat.toDigits 10 n = first :: ds) (ends : Ends rest)
    (onward : Takes (k ds) rest b after) :
    Takes (if first = '0' then pure [] >>= k else takeWhile Text.isAsciiDigit >>= k)
      (ds ++ rest) b after := by
  split
  case isTrue zero =>
    subst zero
    obtain ⟨-, rfl⟩ := toDigits_eq_zero_cons whole
    exact (Takes.pure [] rest).bind onward
  case isFalse =>
    have digits := AllDigits.toDigits n
    rw [whole] at digits
    exact (takes_digits (digits.of_subset (List.subset_cons_self first ds)) ends.parted).bind onward

end Scan

/-- The number of the sign and the digits of `n`. -/
def signed (negative : Bool) (n : Nat) : Number :=
  .whole (if negative then -n else n)

/-- The reader's digits are folded from the first on, so they give the number that they spell. -/
theorem accumulate_toDigits {first : Char} {more : List Char}
    (whole : Nat.toDigits 10 n = first :: more) (small : n < Nat.pow 2 64) :
    accumulate (Notation.digitValue first) more = (n, []) := by
  have value : Nat.ofDigitChars 10 more (Notation.digitValue first) = n := by
    have spelled := Nat.ofDigitChars_ten_toDigits (n := n)
    rwa [whole, Nat.ofDigitChars_cons, Nat.mul_zero, Nat.zero_add] at spelled
  rw [accumulate_eq (by rwa [value]), value]

theorem takes_unsignedNumber {negative : Bool}
    (small : if negative then 0 < n ∧ n ≤ Nat.pow 2 63 else n < Nat.pow 2 64) (ends : Ends rest) :
    Takes (unsignedNumber negative) (Nat.toDigits 10 n ++ rest) (signed negative n) rest := by
  have digits := AllDigits.toDigits n
  have fits : n < Nat.pow 2 64 := by
    cases negative
    · exact small
    · exact Nat.lt_of_le_of_lt small.2 (by decide)
  cases whole : Nat.toDigits 10 n with
  | nil => exact absurd whole Nat.toDigits_ne_nil
  | cons first more =>
    rw [whole] at digits
    have isDigit : Text.isAsciiDigit first = true := digits first List.mem_cons_self
    have alone : ¬(first = '0' && ((more ++ rest).head?.map Text.isAsciiDigit).getD false) := by
      simp only [Bool.and_eq_true, decide_eq_true_eq, not_and]
      rintro rfl
      obtain ⟨-, rfl⟩ := toDigits_eq_zero_cons whole
      cases rest with
      | nil => simp
      | cons c rest => simp [(ends c rfl).1]
    refine (Takes.peek _).bind (.ite_neg (by simp [isDigit]) ?_)
    refine (Takes.skip first _).bind ((Takes.peek _).bind (.ite_neg alone ?_))
    refine takes_moreDigits whole ends ?_
    simp only [accumulate_toDigits whole fits]
    refine (Takes.peek rest).bind ?_
    split
    case h_1 point => exact absurd rfl (ends '.' point).2.1
    case h_2 exponent => exact absurd rfl (ends 'e' exponent).2.2.1
    case h_3 exponent => exact absurd rfl (ends 'E' exponent).2.2.2
    case h_4 =>
      cases negative with
      | false => exact .pure _ rest
      | true =>
        have nonzero : ¬n = 0 := Nat.ne_of_gt small.1
        exact .ite_neg (by decide)
          (.ite_neg (by decide) (.ite_neg nonzero (.ite_pos small.2 (.pure _ rest))))

/-- A whole number's text begins with the sign or with a digit. -/
theorem takes_number {m : Int} (fits : (Number.whole m).fits = true) (ends : Ends rest) :
    ∃ c cs, (toString m).toList ++ rest = c :: cs ∧ (c = '-' ∨ Text.isAsciiDigit c = true) ∧
      Takes (number c) (c :: cs) (.whole m) rest := by
  have ⟨low, high⟩ := of_decide_eq_true fits
  rw [toList_toString_int]
  split
  case isTrue negative =>
    have value : signed true m.natAbs = .whole m :=
      congrArg Number.whole (show -(m.natAbs : Int) = m by omega)
    have taken := @takes_unsignedNumber m.natAbs rest true ⟨by omega, by omega⟩ ends
    rw [value] at taken
    exact ⟨'-', _, rfl, .inl rfl, .ite_pos rfl ((Takes.skip '-' _).bind taken)⟩
  case isFalse positive =>
    have value : signed false m.natAbs = .whole m :=
      congrArg Number.whole (show (m.natAbs : Int) = m by omega)
    have taken := @takes_unsignedNumber m.natAbs rest false
      (show m.natAbs < Nat.pow 2 64 by omega) ends
    rw [value] at taken
    have digits := AllDigits.toDigits m.natAbs
    cases whole : Nat.toDigits 10 m.natAbs with
    | nil => exact absurd whole Nat.toDigits_ne_nil
    | cons c cs =>
      rw [whole] at taken digits
      have digit : Text.isAsciiDigit c = true := digits c List.mem_cons_self
      have dash : c ≠ '-' := by rintro rfl; cases digit
      exact ⟨c, _, rfl, .inr digit, .ite_neg dash taken⟩

end Json.Reader

end DbConsole

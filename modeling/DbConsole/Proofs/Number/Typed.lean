import DbConsole.Number.Notation
import DbConsole.Proofs.Json.Numbers
import DbConsole.Proofs.Number.Spelling
import DbConsole.Text.Blank

/-!
The text of a number as one that a person types. It always spells a decimal, and it spells a whole number
that has a sign of its own just if the number is one.
-/
set_option autoImplicit false

namespace DbConsole

/-! ### Texts without blanks and capitals -/

/-- The characters that texts of numbers are made of. -/
def IsNumeric (c : Char) : Prop :=
  c.isDigit = true ∨ c ∈ ['-', '+', '.', 'e']

instance (c : Char) : Decidable (IsNumeric c) :=
  inferInstanceAs (Decidable (_ ∨ _))

namespace IsNumeric

variable {c : Char}

theorem toNat_of_isDigit (digit : c.isDigit = true) : 48 ≤ c.toNat ∧ c.toNat ≤ 57 := by
  rw [Char.isDigit, Bool.and_eq_true, decide_eq_true_eq, decide_eq_true_eq] at digit
  exact digit

theorem not_isBlank (numeric : IsNumeric c) : Text.isBlank c = false := by
  rcases numeric with digit | sign
  · have ⟨low, high⟩ := toNat_of_isDigit digit
    simp only [Text.isBlank, Bool.or_eq_false_iff, Bool.and_eq_false_iff, beq_eq_false_iff_ne,
      decide_eq_false_iff_not]
    omega
  · simp only [List.mem_cons, List.not_mem_nil, or_false] at sign
    rcases sign with rfl | rfl | rfl | rfl <;> rfl

theorem lowerAscii_eq (numeric : IsNumeric c) : Text.lowerAscii c = c := by
  have notCapital : ¬('A' ≤ c ∧ c ≤ 'Z') := by
    rcases numeric with digit | sign
    · have ⟨low, high⟩ := toNat_of_isDigit digit
      intro ⟨first, _⟩
      have : 65 ≤ c.toNat := first
      omega
    · simp only [List.mem_cons, List.not_mem_nil, or_false] at sign
      rcases sign with rfl | rfl | rfl | rfl <;> decide
  rw [Text.lowerAscii, if_neg notCapital]

end IsNumeric

namespace Number

theorem Exponent.isNumeric {cs : List Char} (exponent : Exponent cs) : ∀ c ∈ cs, IsNumeric c := by
  cases exponent with
  | none => simp
  | @some sign ds signed digits =>
    have signs : IsNumeric sign := by
      rcases signed with rfl | rfl <;> exact .inr (by decide)
    intro c member
    rcases List.mem_cons.mp member with rfl | member
    · exact .inr (by decide)
    · rcases List.mem_cons.mp member with rfl | digit
      · exact signs
      · exact .inl (digits c digit)

theorem Tail.isNumeric {cs : List Char} (tail : Tail cs) : ∀ c ∈ cs, IsNumeric c := by
  cases tail with
  | exponent exponent => exact exponent.isNumeric
  | point digits exponent =>
    intro c member
    rcases List.mem_cons.mp member with rfl | member
    · exact .inr (by decide)
    · rcases List.mem_append.mp member with digit | behind
      · exact .inl (digits c digit)
      · exact exponent.isNumeric c behind

theorem Numeral.isNumeric {cs : List Char} (numeral : Numeral cs) : ∀ c ∈ cs, IsNumeric c := by
  cases numeral with
  | @intro first ds tail digits behind =>
    intro c member
    rw [← List.cons_append] at member
    rcases List.mem_append.mp member with digit | late
    · exact .inl (digits c digit)
    · exact behind.isNumeric c late

theorem isNumeric_of_mem_text (n : Number) : ∀ c ∈ n.text.toList, IsNumeric c := by
  have ⟨cs, numeral, written⟩ := exists_numeral n
  rcases written with negative | positive
  · rw [negative]
    intro c member
    rcases List.mem_cons.mp member with rfl | member
    · exact .inr (by decide)
    · exact numeral.isNumeric c member
  · rw [positive]
    exact numeral.isNumeric

/-- There is no white space around the text of a number. -/
theorem trim_text (n : Number) : Text.trim n.text = n.text := by
  have kept (cs : List Char) (numeric : ∀ c ∈ cs, IsNumeric c) : cs.dropWhile Text.isBlank = cs := by
    cases cs with
    | nil => rfl
    | cons c cs =>
      exact List.dropWhile_cons_of_neg (by simp [(numeric c List.mem_cons_self).not_isBlank])
  have numeric := isNumeric_of_mem_text n
  have backwards : ∀ c ∈ n.text.toList.reverse, IsNumeric c := by simpa using numeric
  rw [Text.trim, Text.trimChars, kept _ numeric, kept _ backwards, List.reverse_reverse,
    String.ofList_toList]

/-- The text of a number is in lower case. -/
theorem asciiLower_text (n : Number) : Text.asciiLower n.text = n.text := by
  have same : n.text.toList.map Text.lowerAscii = n.text.toList.map id :=
    List.map_congr_left fun c member => (isNumeric_of_mem_text n c member).lowerAscii_eq
  rw [Text.asciiLower, same, List.map_id, String.ofList_toList]

end Number

/-! ### Whole numbers -/

namespace Notation

theorem natural?_toDigits (n : Nat) : natural? (Nat.toDigits 10 n) = some n := by
  have digits : (Nat.toDigits 10 n).all Text.isAsciiDigit = true :=
    List.all_eq_true.mpr (AllDigits.toDigits n)
  cases written : Nat.toDigits 10 n with
  | nil => exact absurd written Nat.toDigits_ne_nil
  | cons c cs =>
    rw [← written, natural?, if_pos digits]
    · exact congrArg some Nat.ofDigitChars_ten_toDigits
    · exact Nat.toDigits_ne_nil

theorem natural?_of_mem {cs : List Char} {c : Char} (member : c ∈ cs)
    (other : Text.isAsciiDigit c = false) : natural? cs = none := by
  unfold natural?
  split
  · rfl
  · refine if_neg fun all => ?_
    rw [List.all_eq_true.mp all c member] at other
    cases other

theorem integer?_of_mem {s : String} {c : Char} (member : c ∈ s.toList)
    (other : Text.isAsciiDigit c = false) (unsigned : c ≠ '-' ∧ c ≠ '+') : integer? s = none := by
  unfold integer?
  split
  case h_1 rest written =>
    rw [written] at member
    have behind := (List.mem_cons.mp member).resolve_left unsigned.1
    rw [natural?_of_mem behind other, Option.bind_none]
  case h_2 rest written =>
    rw [written] at member
    have behind := (List.mem_cons.mp member).resolve_left unsigned.2
    rw [natural?_of_mem behind other, Option.bind_none]
  case h_3 => rw [natural?_of_mem member other, Option.bind_none]

theorem integer?_of_negative {s : String} {n : Nat} (written : s.toList = '-' :: Nat.toDigits 10 n) :
    integer? s = if n ≤ Nat.pow 2 63 then some (-(n : Int)) else none := by
  rw [integer?, written]
  change ((natural? (Nat.toDigits 10 n)).bind _) = _
  rw [natural?_toDigits, Option.bind_some]

theorem integer?_of_positive {s : String} {n : Nat} (written : s.toList = Nat.toDigits 10 n) :
    integer? s = if n < Nat.pow 2 63 then some (n : Int) else none := by
  have digits := AllDigits.toDigits n
  unfold integer?
  split
  case h_1 rest minus =>
    have sign : '-' ∈ Nat.toDigits 10 n := by rw [← written, minus]; exact List.mem_cons_self
    exact absurd sign (digits.notMem rfl)
  case h_2 rest plus =>
    have sign : '+' ∈ Nat.toDigits 10 n := by rw [← written, plus]; exact List.mem_cons_self
    exact absurd sign (digits.notMem rfl)
  case h_3 => rw [written, natural?_toDigits, Option.bind_some]

end Notation

/-- Whether the number is whole and 64 bits hold it with a sign. -/
def Number.isSigned : Number → Bool
  | .whole m => decide (-(Nat.pow 2 63 : Int) ≤ m ∧ m < Nat.pow 2 63)
  | .real _ => false

/-- The text of a number spells a whole number with a sign just if the number is one. -/
theorem Notation.isSome_integer?_text (n : Number) : (integer? n.text).isSome = n.isSigned := by
  cases n with
  | whole m =>
    have written : (toString m).toList = _ := toList_toString_int m
    have width : Nat.pow 2 63 = 9223372036854775808 := rfl
    rw [Number.isSigned, cast_two_pow_63]
    change (integer? (toString m)).isSome = _
    by_cases negative : m < 0
    · rw [if_pos negative] at written
      rw [integer?_of_negative written, width]
      by_cases small : m.natAbs ≤ 9223372036854775808
      · rw [if_pos small]
        exact (decide_eq_true (by omega)).symm
      · rw [if_neg small]
        exact (decide_eq_false (by omega)).symm
    · rw [if_neg negative, List.nil_append] at written
      rw [integer?_of_positive written, width]
      by_cases small : m.natAbs < 9223372036854775808
      · rw [if_pos small]
        exact (decide_eq_true (by omega)).symm
      · rw [if_neg small]
        exact (decide_eq_false (by omega)).symm
  | real x =>
    have none : integer? x.text = none := by
      rcases x.marked_text with point | exponent
      · exact integer?_of_mem point rfl (by decide)
      · exact integer?_of_mem exponent rfl (by decide)
    change (integer? x.text).isSome = false
    rw [none]
    rfl

/-! ### Decimals -/

namespace Number

/-- The text ends in digits. -/
def EndsInDigits (cs : List Char) : Prop :=
  ∃ front ds, cs = front ++ ds ∧ ds ≠ [] ∧ AllDigits ds

namespace EndsInDigits

theorem toDigits (front : List Char) (n : Nat) : EndsInDigits (front ++ Nat.toDigits 10 n) :=
  ⟨front, _, rfl, Nat.toDigits_ne_nil, AllDigits.toDigits n⟩

theorem zero (front : List Char) : EndsInDigits (front ++ ['0']) :=
  ⟨front, _, rfl, by simp, AllDigits.zeros 1⟩

theorem append {cs : List Char} (ends : EndsInDigits cs) (front : List Char) :
    EndsInDigits (front ++ cs) := by
  have ⟨before, ds, split, some_, digits⟩ := ends
  exact ⟨front ++ before, ds, by rw [split, List.append_assoc], some_, digits⟩

/-- Behind a character that is no digit there is one. -/
theorem ne_nil {front : List Char} {c : Char} {rest : List Char}
    (ends : EndsInDigits (front ++ c :: rest)) (other : c.isDigit = false) : rest ≠ [] := by
  intro empty
  have ⟨before, ds, split, some_, digits⟩ := ends
  have last := congrArg List.getLast? split
  rw [empty, List.getLast?_append_of_ne_nil _ some_, List.getLast?_concat] at last
  have member := List.mem_of_getLast? last.symm
  exact digits.notMem other member

theorem positional (n : Nat) (leading : Int) :
    EndsInDigits (Binary64.positional (toString n) leading).toList := by
  unfold Binary64.positional
  dsimp only
  split
  case isTrue below =>
    rw [String.toList_append, toList_toString]
    exact toDigits _ n
  case isFalse above =>
    split
    case isTrue short =>
      rw [String.toList_append]
      exact append (zero ['.']) _
    case isFalse long =>
      rw [String.toList_append, String.toList_ofList]
      refine ⟨_, _, rfl, ?_, ?_⟩
      · rw [length_toString] at long
        rw [toList_toString]
        simp only [ne_eq, List.drop_eq_nil_iff]
        exact long
      · rw [toList_toString]
        exact (AllDigits.toDigits n).of_subset (List.drop_subset _ _)

theorem scientific (digits : String) (leading : Int) :
    EndsInDigits (Binary64.scientific digits leading).toList := by
  unfold Binary64.scientific
  dsimp only
  rw [String.toList_append, toList_toString]
  exact toDigits _ _

theorem text (n : Number) : EndsInDigits n.text.toList := by
  cases n with
  | whole m =>
    change EndsInDigits (toString m).toList
    rw [toList_toString_int]
    exact toDigits _ _
  | real x =>
    change EndsInDigits x.text.toList
    rw [Binary64.text_eq, String.toList_append]
    apply append
    unfold Binary64.unsignedText
    split
    · exact zero "0.".toList
    · dsimp only
      split
      · exact positional _ _
      · exact scientific _ _

end EndsInDigits

open Notation

/-- What follows the whole part and the places of a number is an exponent with digits, or nothing. -/
theorem Exponent.isExponent {front cs : List Char} (exponent : Exponent cs)
    (ends : EndsInDigits (front ++ cs)) : isExponent cs = true := by
  cases exponent with
  | none => rfl
  | @some sign ds signed digits =>
    have behind : dropSign (sign :: ds) = ds := by
      rcases signed with rfl | rfl <;> rfl
    have notDigit : sign.isDigit = false := by
      rcases signed with rfl | rfl <;> rfl
    have some_ : ds ≠ [] := by
      have behindSign : EndsInDigits ((front ++ ['e']) ++ sign :: ds) := by simpa using ends
      exact behindSign.ne_nil notDigit
    have all : ds.all Text.isAsciiDigit = true := List.all_eq_true.mpr digits
    rw [Notation.isExponent, behind, all]
    simp [some_]

theorem Exponent.parted {cs : List Char} (exponent : Exponent cs) : Json.Reader.Parted cs := by
  cases exponent with
  | none => nofun
  | some signed digits =>
    intro c first
    cases first
    rfl

theorem Tail.parted {cs : List Char} (tail : Tail cs) : Json.Reader.Parted cs := by
  cases tail with
  | exponent exponent => exact exponent.parted
  | point digits exponent =>
    intro c first
    cases first
    rfl

theorem Numeral.isPlainDecimal {cs : List Char} (numeral : Numeral cs) (ends : EndsInDigits cs) :
    isPlainDecimal cs = true := by
  cases numeral with
  | @intro first ds tail digits behind =>
    rw [← List.cons_append] at ends ⊢
    have whole := Json.Reader.takeWhile_digits digits behind.parted
    have rest := Json.Reader.dropWhile_digits digits behind.parted
    rw [Notation.isPlainDecimal, whole, rest]
    cases behind with
    | exponent exponent =>
      have suited := exponent.isExponent ends
      cases exponent with
      | none => rfl
      | some signed digits' => simpa using suited
    | @point places cs digits' exponent =>
      have behindPlaces : EndsInDigits ((first :: ds ++ '.' :: places) ++ cs) := by simpa using ends
      have suited := exponent.isExponent behindPlaces
      change (_ && isExponent ((places ++ cs).dropWhile Text.isAsciiDigit)) = true
      rw [Json.Reader.dropWhile_digits digits' exponent.parted, suited]
      rfl

/-- The text of a number spells a decimal. -/
theorem isDecimal_text (n : Number) : isDecimal n.text = true := by
  have ⟨cs, numeral, written⟩ := exists_numeral n
  have ends := EndsInDigits.text n
  have body : dropSign n.text.toList = cs ∧ EndsInDigits cs := by
    rcases written with negative | positive
    · rw [negative] at ends ⊢
      have ⟨front, ds, split, some_, digits⟩ := ends
      refine ⟨rfl, ?_⟩
      cases front with
      | nil =>
        have sign : '-' ∈ ds := by
          rw [List.nil_append] at split
          rw [← split]
          exact List.mem_cons_self
        exact absurd sign (digits.notMem rfl)
      | cons c front => exact ⟨front, ds, (List.cons.inj split).2, some_, digits⟩
    · rw [positive] at ends ⊢
      refine ⟨?_, ends⟩
      cases numeral with
      | @intro first ds tail digits behind =>
        have digit : first.isDigit = true := digits first List.mem_cons_self
        unfold dropSign
        split
        · rename_i same
          rw [(List.cons.inj same).1] at digit
          cases digit
        · rename_i same
          rw [(List.cons.inj same).1] at digit
          cases digit
        · rfl
  rw [isDecimal, body.1, numeral.isPlainDecimal body.2]
  simp

end Number

end DbConsole

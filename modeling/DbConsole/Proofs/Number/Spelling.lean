import DbConsole.Json.Basic
import DbConsole.Proofs.Number.Digits
import DbConsole.Proofs.Number.ReadsBack
import Mathlib.Data.List.TakeWhile

/-!
The text of a number: a sign or none, digits, and behind them a point with more digits, an exponent,
both or neither. The value that it spells is the value of its shortest decimal, so different numbers
have different texts.
-/
set_option autoImplicit false

namespace DbConsole

namespace Binary64

/-! ### What a decimal text spells -/

/-- The value of digits with a point before, among or after them, or with none. -/
def mantissaValue (cs : List Char) : ℚ :=
  let whole := cs.takeWhile (· != '.')
  let places := (cs.dropWhile (· != '.')).drop 1
  Nat.ofDigitChars 10 (whole ++ places) 0 * 10 ^ (-(places.length : Int))

def exponentValue : List Char → Int
  | 'e' :: '-' :: digits => -(Nat.ofDigitChars 10 digits 0 : Int)
  | 'e' :: '+' :: digits => Nat.ofDigitChars 10 digits 0
  | _ => 0

/-- The value of a decimal text without sign. -/
def spelled (cs : List Char) : ℚ :=
  mantissaValue (cs.takeWhile (· != 'e')) * 10 ^ exponentValue (cs.dropWhile (· != 'e'))

section Split

variable {c : Char} {before : List Char}

theorem bne_of_notMem (absent : c ∉ before) : ∀ a ∈ before, (a != c) = true :=
  fun _ mem => bne_iff_ne.mpr (ne_of_mem_of_not_mem mem absent)

theorem takeWhile_append_of_notMem (absent : c ∉ before) (rest : List Char) :
    (before ++ c :: rest).takeWhile (· != c) = before := by
  rw [List.takeWhile_append_of_pos (bne_of_notMem absent), List.takeWhile_cons_of_neg (by simp),
    List.append_nil]

theorem dropWhile_append_of_notMem (absent : c ∉ before) (rest : List Char) :
    (before ++ c :: rest).dropWhile (· != c) = c :: rest := by
  rw [List.dropWhile_append_of_pos (bne_of_notMem absent), List.dropWhile_cons_of_neg (by simp)]

theorem takeWhile_of_notMem (absent : c ∉ before) : before.takeWhile (· != c) = before :=
  List.takeWhile_eq_self_iff.mpr (bne_of_notMem absent)

theorem dropWhile_of_notMem (absent : c ∉ before) : before.dropWhile (· != c) = [] :=
  List.dropWhile_eq_nil_iff.mpr (bne_of_notMem absent)

end Split

theorem mantissaValue_point {whole : List Char} (places : List Char) (absent : '.' ∉ whole) :
    mantissaValue (whole ++ '.' :: places) =
      Nat.ofDigitChars 10 (whole ++ places) 0 * 10 ^ (-(places.length : Int)) := by
  simp only [mantissaValue, takeWhile_append_of_notMem absent, dropWhile_append_of_notMem absent,
    List.drop_one, List.tail_cons]

theorem mantissaValue_whole {whole : List Char} (absent : '.' ∉ whole) :
    mantissaValue whole = Nat.ofDigitChars 10 whole 0 := by
  simp [mantissaValue, takeWhile_of_notMem absent, dropWhile_of_notMem absent]

theorem spelled_plain {mantissa : List Char} (absent : 'e' ∉ mantissa) :
    spelled mantissa = mantissaValue mantissa := by
  simp [spelled, takeWhile_of_notMem absent, dropWhile_of_notMem absent, exponentValue]

theorem spelled_exponent {mantissa : List Char} (rest : List Char) (absent : 'e' ∉ mantissa) :
    spelled (mantissa ++ 'e' :: rest) =
      mantissaValue mantissa * 10 ^ exponentValue ('e' :: rest) := by
  rw [spelled, takeWhile_append_of_notMem absent, dropWhile_append_of_notMem absent]

/-! ### Texts without sign -/

/-- A decimal text without sign that spells the value. -/
structure Spells (cs : List Char) (value : ℚ) : Prop where
  spelled : spelled cs = value
  unsigned : ∀ rest, cs ≠ '-' :: rest
  /-- It is not the text of a whole number. -/
  marked : '.' ∈ cs ∨ 'e' ∈ cs

section Marks

variable {whole places mantissa : List Char} {n : Nat}

theorem notMem_point (digits : AllDigits whole) (digits' : AllDigits places) :
    'e' ∉ whole ++ '.' :: places := by
  simp [digits.notMem (c := 'e') rfl, digits'.notMem (c := 'e') rfl]

theorem ne_dash {c : Char} (digits : AllDigits whole) (other : c ≠ '-') (rest : List Char) :
    whole ++ c :: places ≠ '-' :: rest := by
  rintro same
  cases whole with
  | nil => exact other (List.cons.inj same).1
  | cons d whole =>
    obtain ⟨rfl, -⟩ := List.cons.inj same
    exact digits.notMem (c := '-') rfl List.mem_cons_self

theorem Spells.of_point (digits : AllDigits whole) (digits' : AllDigits places) :
    Spells (whole ++ '.' :: places)
      (Nat.ofDigitChars 10 (whole ++ places) 0 * 10 ^ (-(places.length : Int))) where
  spelled := by
    rw [spelled_plain (notMem_point digits digits'), mantissaValue_point _ (digits.notMem rfl)]
  unsigned := ne_dash digits (by decide)
  marked := .inl (by simp)

theorem exponentValue_scientific (leading : Int) :
    exponentValue ('e' :: ((if leading < 0 then "-" else "+").toList ++
      (toString leading.natAbs).toList)) = leading := by
  rw [toList_toString]
  split
  case isTrue below =>
    change -(Nat.ofDigitChars 10 (Nat.toDigits 10 leading.natAbs) 0 : Int) = leading
    rw [Nat.ofDigitChars_ten_toDigits]
    omega
  case isFalse above =>
    change (Nat.ofDigitChars 10 (Nat.toDigits 10 leading.natAbs) 0 : Int) = leading
    rw [Nat.ofDigitChars_ten_toDigits]
    omega

theorem ofDigitChars_zeros_append (zeros n : Nat) :
    Nat.ofDigitChars 10 (List.replicate zeros '0' ++ Nat.toDigits 10 n) 0 = n := by
  rw [Nat.ofDigitChars_append, Nat.ofDigitChars_replicate_zero, Nat.mul_zero,
    Nat.ofDigitChars_ten_toDigits]

theorem ofDigitChars_append_zeros (zeros n : Nat) :
    Nat.ofDigitChars 10 (Nat.toDigits 10 n ++ List.replicate zeros '0') 0 = 10 ^ zeros * n := by
  rw [Nat.ofDigitChars_append, Nat.ofDigitChars_replicate_zero, Nat.ofDigitChars_ten_toDigits]

theorem Spells.of_positional (n : Nat) (leading : Int) :
    Spells (positional (toString n) leading).toList
      (n * 10 ^ (leading + 1 - (Nat.toDigits 10 n).length)) := by
  have digits := AllDigits.toDigits n
  unfold positional
  dsimp only
  rw [length_toString]
  generalize count : (Nat.toDigits 10 n).length = size
  split
  case isTrue below =>
    have spells := Spells.of_point (AllDigits.zeros 1)
      ((AllDigits.zeros ((-leading).toNat - 1)).append digits)
    rw [← List.append_assoc, ← List.replicate_add, ofDigitChars_zeros_append] at spells
    convert spells using 3
    · simp
    · simp only [List.length_append, List.length_replicate, count]
      omega
  case isFalse above =>
    split
    case isTrue short =>
      have spells := Spells.of_point (digits.append (AllDigits.zeros (leading.toNat + 1 - size)))
        (AllDigits.zeros 1)
      rw [List.append_assoc _ _ (List.replicate 1 '0'), ← List.replicate_add,
        ofDigitChars_append_zeros] at spells
      convert spells using 1
      · simp
      · rw [List.length_replicate, Nat.cast_mul, Nat.cast_pow, mul_comm, mul_right_comm,
          Nat.cast_ofNat, ← zpow_natCast, ← zpow_add₀ (by norm_num)]
        congr 2
        omega
    case isFalse long =>
      have spells := Spells.of_point
        (digits.of_subset (List.take_subset (leading.toNat + 1) _))
        (digits.of_subset (List.drop_subset (leading.toNat + 1) _))
      rw [List.take_append_drop, Nat.ofDigitChars_ten_toDigits] at spells
      convert spells using 1
      · simp
      · rw [List.length_drop, count]
        congr 2
        omega

theorem Spells.of_exponent (leading : Int) {mantissa : List Char} (plain : 'e' ∉ mantissa)
    (unsigned : ∀ rest, mantissa ++ ['e'] ≠ '-' :: rest) {value : ℚ} 
    (spelled : mantissaValue mantissa = value) :
    Spells (mantissa ++ 'e' :: ((if leading < 0 then "-" else "+").toList ++
      (toString leading.natAbs).toList)) (value * 10 ^ leading) where
  spelled := by rw [spelled_exponent _ plain, exponentValue_scientific, spelled]
  unsigned := by
    rintro rest same
    cases mantissa with
    | nil => cases same
    | cons c mantissa =>
      obtain ⟨rfl, -⟩ := List.cons.inj same
      exact unsigned _ rfl
  marked := .inr (by simp)

theorem Spells.of_scientific (n : Nat) (leading : Int) :
    Spells (scientific (toString n) leading).toList
      (n * 10 ^ (leading + 1 - (Nat.toDigits 10 n).length)) := by
  have digits := AllDigits.toDigits n
  have value := Nat.ofDigitChars_ten_toDigits (n := n)
  unfold scientific
  dsimp only
  rw [toList_toString]
  match split : Nat.toDigits 10 n with
  | [] => exact absurd split Nat.toDigits_ne_nil
  | [d] =>
    rw [split] at digits value
    have spells := Spells.of_exponent leading (digits.notMem (c := 'e') rfl)
      (ne_dash digits (by decide)) (mantissaValue_whole (digits.notMem rfl))
    convert spells using 1
    · simp
    · rw [value, List.length_singleton]
      congr 2
      omega
  | d :: d' :: rest =>
    rw [split] at digits value
    have first : AllDigits [d] := digits.of_subset (by simp)
    have others : AllDigits (d' :: rest) := digits.of_subset (by simp)
    have spells := Spells.of_exponent leading (notMem_point first others)
      (by simpa using @ne_dash _ (d' :: rest ++ ['e']) '.' first (by decide))
      (mantissaValue_point _ (first.notMem rfl))
    convert spells using 1
    · simp
    · rw [List.singleton_append, value, mul_assoc, ← zpow_add₀ (by norm_num)]
      congr 2
      simp only [List.length_cons]
      omega

end Marks

/-! ### The text of a number -/

/-- The text after the sign. -/
def unsignedText (x : Binary64) : String :=
  if x.isZero then "0.0"
  else
    let d := x.shortest
    let digits := toString d.digits
    let leading := d.exponent + (digits.length : Int) - 1
    if -5 ≤ leading ∧ leading ≤ 15 then positional digits leading else scientific digits leading

theorem text_eq (x : Binary64) : x.text = (if x.negative then "-" else "") ++ x.unsignedText := by
  unfold text unsignedText
  dsimp only
  split
  · rfl
  · split <;> rfl

theorem spells_unsignedText (x : Binary64) : Spells x.unsignedText.toList x.shortest.value := by
  unfold unsignedText
  split
  case isTrue zero =>
    have spells := Spells.of_point (AllDigits.zeros 1) (AllDigits.zeros 1)
    have value : x.shortest.value = 0 := by simp [shortest, zero, Decimal.value]
    rw [value]
    convert spells using 1
    · rfl
    · rw [← List.replicate_add, Nat.ofDigitChars_replicate_zero, Nat.mul_zero, Nat.cast_zero,
        zero_mul]
  case isFalse =>
    have value : x.shortest.value = x.shortest.digits *
        10 ^ (x.shortest.exponent + ((toString x.shortest.digits).length : Int) - 1 + 1 -
          ((Nat.toDigits 10 x.shortest.digits).length : Int)) := by
      rw [length_toString, Decimal.value]
      congr 2
      omega
    dsimp only
    rw [value]
    split
    · exact Spells.of_positional _ _
    · exact Spells.of_scientific _ _

/-- A sign can be told from the text that it stands before. -/
theorem Spells.sign_unique {cs ds : List Char} {v w : ℚ} (left : Spells cs v) (right : Spells ds w)
    {negative negative' : Bool}
    (same : (if negative then "-" else "").toList ++ cs =
      (if negative' then "-" else "").toList ++ ds) : negative = negative' ∧ cs = ds := by
  cases negative <;> cases negative'
  · exact ⟨rfl, same⟩
  · exact absurd same (left.unsigned ds)
  · exact absurd same.symm (right.unsigned cs)
  · exact ⟨rfl, (List.cons.inj same).2⟩

/-- Different numbers have different texts. -/
theorem text_injective {x y : Binary64} (same : x.text = y.text) : x = y := by
  have left := spells_unsignedText x
  have right := spells_unsignedText y
  have chars := congrArg String.toList same
  rw [text_eq, text_eq, String.toList_append, String.toList_append] at chars
  obtain ⟨sign, body⟩ := left.sign_unique right chars
  rw [body] at left
  exact eq_of_value_shortest sign (left.spelled.symm.trans right.spelled)

theorem marked_text (x : Binary64) : '.' ∈ x.text.toList ∨ 'e' ∈ x.text.toList := by
  rw [text_eq, String.toList_append]
  rcases (spells_unsignedText x).marked with point | exponent
  · exact .inl (List.mem_append_right _ point)
  · exact .inr (List.mem_append_right _ exponent)

end Binary64

namespace Number

open Binary64

theorem mem_toString {n : Int} {c : Char} (mem : c ∈ (toString n).toList) :
    c = '-' ∨ c.isDigit = true := by
  rw [toList_toString_int] at mem
  rcases List.mem_append.mp mem with sign | digit
  · exact .inl (by split at sign <;> simp_all)
  · exact .inr (AllDigits.toDigits _ c digit)

theorem whole_ne_real (n : Int) (x : Binary64) : toString n ≠ x.text := fun same => by
  rcases marked_text x with mem | mem <;>
  · rw [← same] at mem
    rcases mem_toString mem with dash | digit
    · cases dash
    · cases digit

/-- Different numbers have different texts. -/
theorem text_injective {m n : Number} (same : m.text = n.text) : m = n := by
  match m, n with
  | .whole m, .whole n => exact congrArg Number.whole (toString_int_injective same)
  | .whole m, .real y => exact absurd same (whole_ne_real m y)
  | .real x, .whole n => exact absurd same.symm (whole_ne_real n x)
  | .real x, .real y => exact congrArg Number.real (Binary64.text_injective same)

/-! ### The form of the text -/

/-- An exponent, or nothing. -/
inductive Exponent : List Char → Prop
  | none : Exponent []
  | some {sign : Char} {ds : List Char} (signed : sign = '-' ∨ sign = '+') (digits : AllDigits ds) :
    Exponent ('e' :: sign :: ds)

/-- What may follow the whole part of a number. -/
inductive Tail : List Char → Prop
  | exponent {cs : List Char} (exponent : Exponent cs) : Tail cs
  | point {ds cs : List Char} (digits : AllDigits ds) (exponent : Exponent cs) :
    Tail ('.' :: (ds ++ cs))

/-- The text of a number without its sign. -/
inductive Numeral : List Char → Prop
  | intro {c : Char} {ds tail : List Char} (digits : AllDigits (c :: ds)) (behind : Tail tail) :
    Numeral (c :: (ds ++ tail))

namespace Numeral

theorem of_append {whole tail : List Char} (some_ : whole ≠ []) (digits : AllDigits whole)
    (behind : Tail tail) : Numeral (whole ++ tail) := by
  cases whole with
  | nil => exact absurd rfl some_
  | cons c ds => exact .intro digits behind

theorem of_point {whole places : List Char} (some_ : whole ≠ []) (digits : AllDigits whole)
    (digits' : AllDigits places) : Numeral (whole ++ '.' :: places) := by
  have behind := Tail.point digits' .none
  rw [List.append_nil] at behind
  exact of_append some_ digits behind

theorem toDigits (n : Nat) : Numeral (Nat.toDigits 10 n) := by
  have numeral := of_append Nat.toDigits_ne_nil (AllDigits.toDigits n) (.exponent .none)
  rwa [List.append_nil] at numeral

theorem positional (n : Nat) (leading : Int) :
    Numeral (Binary64.positional (toString n) leading).toList := by
  have digits := AllDigits.toDigits n
  unfold Binary64.positional
  dsimp only
  split
  case isTrue below =>
    have numeral := of_point (List.cons_ne_nil '0' []) (AllDigits.zeros 1)
      ((AllDigits.zeros ((-leading).toNat - 1)).append digits)
    simpa [toList_toString] using numeral
  case isFalse above =>
    split
    case isTrue short =>
      have numeral := of_point (by simp [Nat.toDigits_ne_nil]) (digits.append (AllDigits.zeros
        (leading.toNat + 1 - (toString n).length))) (AllDigits.zeros 1)
      simpa [toList_toString] using numeral
    case isFalse long =>
      have numeral := of_point (by simp [Nat.toDigits_ne_nil])
        (digits.of_subset (List.take_subset (leading.toNat + 1) _))
        (digits.of_subset (List.drop_subset (leading.toNat + 1) _))
      simpa [toList_toString] using numeral

theorem scientific (n : Nat) (leading : Int) :
    Numeral (Binary64.scientific (toString n) leading).toList := by
  have digits := AllDigits.toDigits n
  have exponent : Exponent ('e' :: (if leading < 0 then '-' else '+') ::
      Nat.toDigits 10 leading.natAbs) :=
    .some (by split <;> simp) (AllDigits.toDigits _)
  have sign : (if leading < 0 then "-" else "+").toList = [if leading < 0 then '-' else '+'] := by
    split <;> rfl
  unfold Binary64.scientific
  dsimp only
  rw [toList_toString]
  match split : Nat.toDigits 10 n with
  | [] => exact absurd split Nat.toDigits_ne_nil
  | [d] =>
    rw [split] at digits
    have numeral := of_append (by simp) digits (.exponent exponent)
    simpa [toList_toString, sign] using numeral
  | d :: d' :: rest =>
    rw [split] at digits
    have first : AllDigits [d] := digits.of_subset (by simp)
    have others : AllDigits (d' :: rest) := digits.of_subset (by simp)
    have numeral := of_append (by simp) first (.point others exponent)
    simpa [toList_toString, sign] using numeral

theorem unsignedText (x : Binary64) : Numeral x.unsignedText.toList := by
  unfold Binary64.unsignedText
  split
  · exact of_point (List.cons_ne_nil '0' []) (AllDigits.zeros 1) (AllDigits.zeros 1)
  · dsimp only
    split
    · exact positional _ _
    · exact scientific _ _

end Numeral

theorem exists_numeral (n : Number) : ∃ cs, Numeral cs ∧
    (n.text.toList = '-' :: cs ∨ n.text.toList = cs) := by
  cases n with
  | whole m =>
    refine ⟨_, .toDigits m.natAbs, ?_⟩
    change (toString m).toList = _ ∨ (toString m).toList = _
    rw [toList_toString_int]
    split
    · exact .inl rfl
    · exact .inr rfl
  | real x =>
    refine ⟨_, .unsignedText x, ?_⟩
    change x.text.toList = _ ∨ x.text.toList = _
    rw [Binary64.text_eq, String.toList_append]
    split
    · exact .inl rfl
    · exact .inr rfl

theorem text_ne_empty (n : Number) : n.text ≠ "" := by
  intro empty
  obtain ⟨cs, numeral, form⟩ := exists_numeral n
  rw [empty] at form
  rcases form with negative | positive
  · cases negative
  · cases numeral
    cases positive

end Number

end DbConsole

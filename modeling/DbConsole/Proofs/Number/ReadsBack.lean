import DbConsole.Number.Shortest
import Mathlib.Algebra.Order.Field.Rat
import Mathlib.Tactic.FieldSimp
import Mathlib.Tactic.Positivity
import Mathlib.Tactic.Ring

/-!
Reading a decimal gives the number nearest to its value, so two spellings of one value give the same
number; and the decimal that a number is written as reads back as that number.
-/
set_option autoImplicit false

namespace DbConsole.Binary64

/-! ### Rounding depends on the ratio alone -/

theorem roundQuotient_mul (num den : Nat) {k : Nat} (pos : 0 < k) :
    roundQuotient (num * k) (den * k) = roundQuotient num den := by
  have half : 2 * (num % den * k) = 2 * (num % den) * k := (Nat.mul_assoc _ _ _).symm
  unfold roundQuotient
  dsimp only
  rw [Nat.mul_div_mul_right _ _ pos, Nat.mul_mod_mul_right, half]
  simp only [Nat.mul_lt_mul_right pos]

theorem ofRatio?_mul (negative : Bool) (num den : Nat) {k : Nat} (pos : 0 < k) :
    ofRatio? negative (num * k) (den * k) = ofRatio? negative num den := by
  have scaled : num * k * unit = num * unit * k := Nat.mul_right_comm _ _ _
  have wide (scale : Nat) : den * k * Nat.pow 2 scale = den * Nat.pow 2 scale * k :=
    Nat.mul_right_comm _ _ _
  unfold ofRatio?
  dsimp only
  rw [scaled, Nat.mul_div_mul_right _ _ pos, wide, roundQuotient_mul _ _ pos]

theorem ofRatio?_congr (negative : Bool) {num den num' den' : Nat} (pos : 0 < den) (pos' : 0 < den')
    (same : num * den' = num' * den) : ofRatio? negative num den = ofRatio? negative num' den' := by
  rw [← ofRatio?_mul negative num den pos', same, Nat.mul_comm den,
    ofRatio?_mul negative num' den' pos]

/-! ### Decimals -/

/-- The value of a decimal. -/
def Decimal.value (d : Decimal) : ℚ :=
  d.digits * 10 ^ d.exponent

theorem exists_ofDecimal?_eq_ofRatio? (negative : Bool) (d : Decimal) :
    ∃ num den : Nat, 0 < den ∧ d.value = (num : ℚ) / den ∧
      ofDecimal? negative d.digits d.exponent = ofRatio? negative num den := by
  obtain ⟨digits, exponent⟩ := d
  cases exponent with
  | ofNat e =>
    refine ⟨digits * 10 ^ e, 1, Nat.one_pos, ?_, by rw [ofDecimal?, Nat.pow_eq]⟩
    simp [Decimal.value]
  | negSucc e =>
    refine ⟨digits, 10 ^ (e + 1), by positivity, ?_, by rw [ofDecimal?, Nat.pow_eq]⟩
    simp [Decimal.value, zpow_negSucc, div_eq_mul_inv]

/-- Two spellings of one value are the same number. -/
theorem ofDecimal?_congr (negative : Bool) {d d' : Decimal} (same : d.value = d'.value) :
    ofDecimal? negative d.digits d.exponent = ofDecimal? negative d'.digits d'.exponent := by
  obtain ⟨num, den, pos, value, read⟩ := exists_ofDecimal?_eq_ofRatio? negative d
  obtain ⟨num', den', pos', value', read'⟩ := exists_ofDecimal?_eq_ofRatio? negative d'
  have wide : (den : ℚ) ≠ 0 := by exact_mod_cast pos.ne'
  have wide' : (den' : ℚ) ≠ 0 := by exact_mod_cast pos'.ne'
  rw [value, value', div_eq_div_iff wide wide'] at same
  rw [read, read', ofRatio?_congr negative pos pos' (by exact_mod_cast same)]

theorem value_strip (fuel : Nat) (d : Decimal) : (d.strip fuel).value = d.value := by
  induction fuel generalizing d with
  | zero => rfl
  | succ fuel ih =>
    rw [Decimal.strip]
    split
    case isTrue trailing =>
      have tens : d.digits = 10 * (d.digits / 10) := by omega
      have tens' : (d.digits : ℚ) = 10 * ((d.digits / 10 : ℕ) : ℚ) := by exact_mod_cast tens
      rw [ih, Decimal.value, Decimal.value, tens', zpow_add_one₀ (by norm_num)]
      ring
    case isFalse => rfl

/-! ### The exact value -/

theorem unit_pos : 0 < unit :=
  have pos (k : Nat) : 0 < Nat.pow 2 k := Nat.two_pow_pos k
  pos 1074

theorem log2_magnitude (x : Binary64) (scaled : 0 < x.scale) :
    x.magnitude.log2 = x.scale + 52 := by
  have ⟨small, large, _⟩ := x.canonical
  have large : Nat.pow 2 52 ≤ x.significand := large.resolve_left scaled.ne'
  have pos : x.magnitude ≠ 0 :=
    (Nat.mul_pos (Nat.lt_of_lt_of_le (by decide) large) (Nat.pow_pos (by decide))).ne'
  refine (Nat.log2_eq_iff pos).mpr ⟨?_, ?_⟩
  · rw [Nat.add_comm, Nat.pow_add]
    exact Nat.mul_le_mul_right _ large
  · rw [show x.scale + 52 + 1 = 53 + x.scale by omega, Nat.pow_add]
    exact Nat.mul_lt_mul_of_pos_right small (Nat.pow_pos (by decide))

theorem scale_eq (x : Binary64) : x.magnitude.log2 + 1 - 53 = x.scale := by
  rcases Nat.eq_zero_or_pos x.scale with unscaled | scaled
  · have plain : x.magnitude = x.significand := by simp [magnitude, unscaled]
    have short : x.significand.log2 < 53 := by
      rcases Nat.eq_zero_or_pos x.significand with zero | pos
      · simp [zero]
      · exact (Nat.log2_lt pos.ne').mpr x.canonical.1
    rw [plain, unscaled]
    omega
  · have := log2_magnitude x scaled
    omega

theorem roundQuotient_mul_self (n : Nat) {k : Nat} (pos : 0 < k) : roundQuotient (n * k) k = n := by
  simp [roundQuotient, Nat.mul_div_cancel _ pos, pos]

theorem normalize?_self (x : Binary64) :
    normalize? x.negative x.significand x.scale = some x :=
  dif_pos x.canonical

theorem ofRatio?_magnitude (x : Binary64) : ofRatio? x.negative x.magnitude unit = some x := by
  have cancels : x.magnitude * unit / unit = x.magnitude := Nat.mul_div_cancel _ unit_pos
  have rounded : roundQuotient (x.magnitude * unit) (unit * Nat.pow 2 x.scale) = x.significand := by
    rw [Nat.mul_comm unit, roundQuotient_mul _ _ unit_pos]
    exact roundQuotient_mul_self _ (Nat.pow_pos (by decide))
  unfold ofRatio?
  dsimp only
  rw [cancels, scale_eq, rounded, if_neg x.canonical.1.ne, normalize?_self]

theorem ofDecimal?_mul_pow_five (negative : Bool) (n k : Nat) :
    ofDecimal? negative (n * Nat.pow 5 (k + 1)) (.negSucc k) =
      ofRatio? negative n (Nat.pow 2 (k + 1)) := by
  have tens : Nat.pow 10 (k + 1) = Nat.pow 2 (k + 1) * Nat.pow 5 (k + 1) := Nat.mul_pow 2 5 _
  rw [ofDecimal?, tens]
  exact ofRatio?_mul _ _ _ (Nat.pow_pos (by decide))

theorem ofDecimal?_exactDecimal (x : Binary64) :
    ofDecimal? x.negative x.exactDecimal.digits x.exactDecimal.exponent = some x :=
  Eq.trans (ofDecimal?_mul_pow_five x.negative x.magnitude 1073) (ofRatio?_magnitude x)

/-! ### The shortest decimal -/

theorem ofDecimal?_of_onGrid? {x : Binary64} {place : Int} {d : Decimal}
    (found : x.onGrid? place = some d) :
    ofDecimal? x.negative d.digits d.exponent = some x := by
  unfold onGrid? at found
  dsimp only at found
  split at found
  case isTrue fits =>
    cases found
    simp only [Bool.and_eq_true] at fits
    exact eq_of_beq fits.1
  case isFalse =>
    split at found
    case isTrue fits =>
      cases found
      exact eq_of_beq fits
    case isFalse => cases found

theorem ofDecimal?_of_searchGrids {x : Binary64} {leading : Int} {d : Decimal} {left count : Nat}
    (found : searchGrids x leading left count = some d) :
    ofDecimal? x.negative d.digits d.exponent = some x := by
  induction left generalizing count with
  | zero => cases found
  | succ left ih =>
    rw [searchGrids] at found
    split at found
    case h_1 hit =>
      cases found
      exact ofDecimal?_of_onGrid? hit
    case h_2 => exact ih found

theorem magnitude_of_isZero {x : Binary64} (zero : x.isZero) : x.magnitude = 0 := by
  rw [magnitude, eq_of_beq zero, Nat.zero_mul]

/-- A number reads back from the decimal that it is written as. -/
theorem ofDecimal?_shortest (x : Binary64) :
    ofDecimal? x.negative x.shortest.digits x.shortest.exponent = some x := by
  unfold shortest
  split
  case isTrue zero =>
    have same : (⟨0, 0⟩ : Decimal).value = x.exactDecimal.value := by
      rw [Decimal.value, Decimal.value, exactDecimal, magnitude_of_isZero zero, Nat.zero_mul,
        Nat.cast_zero, zero_mul, zero_mul]
    rw [ofDecimal?_congr _ same, ofDecimal?_exactDecimal]
  case isFalse =>
    dsimp only
    rw [ofDecimal?_congr _ (value_strip 1100 _)]
    cases found : searchGrids x (leadingExponent x.magnitude unit 640 x.leadingBound) 18 0 with
    | some d => exact ofDecimal?_of_searchGrids found
    | none => exact ofDecimal?_exactDecimal x

/-- Numbers of one sign that are written as decimals of one value are the same. -/
theorem eq_of_value_shortest {x y : Binary64} (sign : x.negative = y.negative)
    (same : x.shortest.value = y.shortest.value) : x = y := by
  have read := ofDecimal?_congr x.negative same
  rw [ofDecimal?_shortest, sign, ofDecimal?_shortest] at read
  exact Option.some.inj read

end DbConsole.Binary64

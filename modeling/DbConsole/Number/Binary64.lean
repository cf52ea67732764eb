/-!
Finite binary floating-point numbers of 64 bits, as exact fractions. Every operation rounds the
exact result to the nearest number, a tie going to the even significand, and fails where that
leaves the range.
-/
set_option autoImplicit false

namespace DbConsole

/-- The number `± significand * 2 ^ scale / 2 ^ 1074`. A significand below `2 ^ 52` occurs only
with scale 0, so each magnitude has one form. -/
structure Binary64 where
  negative : Bool
  significand : Nat
  scale : Nat
  canonical : significand < Nat.pow 2 53 ∧ (scale = 0 ∨ Nat.pow 2 52 ≤ significand) ∧ scale ≤ 2045
  deriving DecidableEq

namespace Binary64

/-- The power of two that every number is a whole multiple of the inverse of. -/
def unit : Nat := Nat.pow 2 1074

/-- The magnitude in units of `1 / unit`. -/
def magnitude (x : Binary64) : Nat :=
  x.significand * Nat.pow 2 x.scale

def zero (negative : Bool) : Binary64 :=
  ⟨negative, 0, 0, by decide⟩

instance : Inhabited Binary64 := ⟨zero false⟩

def isZero (x : Binary64) : Bool :=
  x.significand == 0

def neg (x : Binary64) : Binary64 :=
  { x with negative := !x.negative }

/-- The quotient rounded to the nearest whole number, a tie going to the even one. -/
def roundQuotient (num den : Nat) : Nat :=
  let q := num / den
  let r := num % den
  if 2 * r < den then q
  else if den < 2 * r then q + 1
  else if q % 2 = 0 then q
  else q + 1

def normalize? (negative : Bool) (significand scale : Nat) : Option Binary64 :=
  if h : significand < Nat.pow 2 53 ∧ (scale = 0 ∨ Nat.pow 2 52 ≤ significand) ∧ scale ≤ 2045 then
    some ⟨negative, significand, scale, h⟩
  else none

/-- The number nearest to `num / den`, if the range reaches that far. -/
def ofRatio? (negative : Bool) (num den : Nat) : Option Binary64 :=
  let scaled := num * unit
  let bits := (scaled / den).log2 + 1
  let scale := bits - 53
  let significand := roundQuotient scaled (den * Nat.pow 2 scale)
  if significand = Nat.pow 2 53 then normalize? negative (Nat.pow 2 52) (scale + 1)
  else normalize? negative significand scale

def ofNat? (n : Nat) : Option Binary64 :=
  ofRatio? false n 1

def mul? (x y : Binary64) : Option Binary64 :=
  ofRatio? (x.negative != y.negative) (x.magnitude * y.magnitude) (unit * unit)

/-- The quotient by a number that is not zero. -/
def div? (x y : Binary64) : Option Binary64 :=
  ofRatio? (x.negative != y.negative) x.magnitude y.magnitude

/-- The nearest number to a power of ten. -/
def tenTo? (exponent : Nat) : Option Binary64 :=
  ofNat? (Nat.pow 10 exponent)

/-- The number nearest to `digits * 10 ^ exponent`. -/
def ofDecimal? (negative : Bool) (digits : Nat) (exponent : Int) : Option Binary64 :=
  match exponent with
  | .ofNat e => ofRatio? negative (digits * Nat.pow 10 e) 1
  | .negSucc e => ofRatio? negative digits (Nat.pow 10 (e + 1))

end Binary64

end DbConsole

import DbConsole.Number.Binary64

/-!
The decimal text of a number: the fewest significant digits that read back as the number, and of
those the nearest to it. Numbers whose first digit stands no further than fifteen places before
and five places behind the point are written positionally, all others with an exponent.
-/
set_option autoImplicit false

namespace DbConsole

namespace Binary64

/-- `digits * 10 ^ exponent`, a decimal that reads back as some number. -/
structure Decimal where
  digits : Nat
  exponent : Int
  deriving DecidableEq, Repr

/-- Whether `num / den` is at least `10 ^ e`. -/
def reachesTen (num den : Nat) : Int → Bool
  | .ofNat k => decide (den * Nat.pow 10 k ≤ num)
  | .negSucc k => decide (den ≤ num * Nat.pow 10 (k + 1))

/-- The exponent of the leading decimal digit of `num / den`, found by counting down from one that
is too large. -/
def leadingExponent (num den : Nat) : Nat → Int → Int
  | 0, e => e
  | fuel + 1, e =>
    if reachesTen num den e then e else leadingExponent num den fuel (e - 1)

/-- An exponent of ten not below that of the leading digit. -/
def leadingBound (x : Binary64) : Int :=
  ((x.magnitude.log2 : Int) - 1073) * 30103 / 100000 + 1

/-- The two points around the number on the grid of decimals with the given last place. -/
def gridBelow (x : Binary64) (place : Int) : Nat :=
  match place with
  | .ofNat k => x.magnitude / (unit * Nat.pow 10 k)
  | .negSucc k => x.magnitude * Nat.pow 10 (k + 1) / unit

/-- Twice the distance of the lower grid point, less the width of the grid: the sign tells which
of the two points is nearer. -/
def gridLean (x : Binary64) (place : Int) (below : Nat) : Int :=
  match place with
  | .ofNat k => 2 * x.magnitude - (2 * below + 1) * (unit * Nat.pow 10 k)
  | .negSucc k => 2 * (x.magnitude * Nat.pow 10 (k + 1)) - (2 * below + 1) * unit

def readsBack (x : Binary64) (digits : Nat) (place : Int) : Bool :=
  ofDecimal? x.negative digits place == some x

/-- The grid point that reads back and is nearest to the number; of two equally near ones the
even one. -/
def onGrid? (x : Binary64) (place : Int) : Option Decimal :=
  let below := x.gridBelow place
  let above := below + 1
  let lean := x.gridLean place below
  let belowFits := x.readsBack below place
  let aboveFits := x.readsBack above place
  if belowFits && (!aboveFits || lean < 0 || (lean == 0 && below % 2 == 0)) then
    some ⟨below, place⟩
  else if aboveFits then some ⟨above, place⟩
  else none

/-- The first grid, from the coarsest, on which a point reads back. -/
def searchGrids (x : Binary64) (leading : Int) : Nat → Nat → Option Decimal
  | 0, _ => none
  | left + 1, count =>
    match x.onGrid? (leading - count) with
    | some d => some d
    | none => searchGrids x leading left (count + 1)

/-- The exact value as a decimal. -/
def exactDecimal (x : Binary64) : Decimal :=
  ⟨x.magnitude * Nat.pow 5 1074, -1074⟩

/-- Drops the trailing zeros of a digit string that is not zero. -/
def Decimal.strip : Nat → Decimal → Decimal
  | 0, d => d
  | fuel + 1, d =>
    if d.digits % 10 = 0 ∧ d.digits ≠ 0 then strip fuel ⟨d.digits / 10, d.exponent + 1⟩ else d

def shortest (x : Binary64) : Decimal :=
  if x.isZero then ⟨0, 0⟩
  else
    let leading := leadingExponent x.magnitude unit 640 x.leadingBound
    ((searchGrids x leading 18 0).getD x.exactDecimal).strip 1100

/-- Digits with the point after the first of them that has exponent `leading`. -/
def positional (digits : String) (leading : Int) : String :=
  let count := digits.length
  if leading < 0 then
    "0." ++ String.ofList (List.replicate ((-leading).toNat - 1) '0') ++ digits
  else
    let before := leading.toNat + 1
    if count ≤ before then
      digits ++ String.ofList (List.replicate (before - count) '0') ++ ".0"
    else
      String.ofList (digits.toList.take before) ++ "." ++ String.ofList (digits.toList.drop before)

def scientific (digits : String) (leading : Int) : String :=
  let mantissa :=
    match digits.toList with
    | [] => ""
    | [d] => String.ofList [d]
    | d :: rest => String.ofList (d :: '.' :: rest)
  let sign := if leading < 0 then "-" else "+"
  mantissa ++ "e" ++ sign ++ toString leading.natAbs

/-- The text of the number; it always has a point or an exponent. -/
def text (x : Binary64) : String :=
  let sign := if x.negative then "-" else ""
  if x.isZero then sign ++ "0.0"
  else
    let d := x.shortest
    let digits := toString d.digits
    let leading := d.exponent + (digits.length : Int) - 1
    if -5 ≤ leading ∧ leading ≤ 15 then sign ++ positional digits leading
    else sign ++ scientific digits leading

end Binary64

end DbConsole

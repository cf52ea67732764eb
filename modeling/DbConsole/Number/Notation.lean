import DbConsole.Text.Letter
import DbConsole.Text.Lowercase

/-!
How whole and decimal numbers are spelled in text that a person types.
-/
set_option autoImplicit false

namespace DbConsole.Notation

def digitValue (c : Char) : Nat :=
  c.toNat - '0'.toNat

/-- The value of a digit string; `none` if it is empty or holds something else. -/
def natural? : List Char → Option Nat
  | [] => none
  | cs =>
    if cs.all Text.isAsciiDigit then some (cs.foldl (fun n c => 10 * n + digitValue c) 0) else none

/-- A whole number without sign, or with a plus. -/
def unsigned? (limit : Nat) (s : String) : Option Nat :=
  let digits := match s.toList with
    | '+' :: rest => rest
    | cs => cs
  (natural? digits).filter (· < limit)

/-- A whole number with an optional sign, from `-2 ^ 63` to `2 ^ 63 - 1`. -/
def integer? (s : String) : Option Int :=
  match s.toList with
  | '-' :: rest =>
    (natural? rest).bind fun n => if n ≤ Nat.pow 2 63 then some (-(n : Int)) else none
  | '+' :: rest => (natural? rest).bind fun n => if n < Nat.pow 2 63 then some (n : Int) else none
  | cs => (natural? cs).bind fun n => if n < Nat.pow 2 63 then some (n : Int) else none

def dropSign : List Char → List Char
  | '+' :: rest => rest
  | '-' :: rest => rest
  | cs => cs

def isExponent : List Char → Bool
  | [] => true
  | c :: rest =>
    (c == 'e' || c == 'E') && !(dropSign rest).isEmpty && (dropSign rest).all Text.isAsciiDigit

/-- Digits with at most one point among or beside them, then an optional exponent. -/
def isPlainDecimal (cs : List Char) : Bool :=
  let whole := cs.takeWhile Text.isAsciiDigit
  match cs.dropWhile Text.isAsciiDigit with
  | '.' :: rest =>
    let places := rest.takeWhile Text.isAsciiDigit
    !(whole.isEmpty && places.isEmpty) && isExponent (rest.dropWhile Text.isAsciiDigit)
  | rest => !whole.isEmpty && isExponent rest

/-- Whether the text spells a floating-point number; infinities and "not a number" count. -/
def isDecimal (s : String) : Bool :=
  let body := dropSign s.toList
  let word := String.ofList (body.map Text.lowerAscii)
  word == "inf" || word == "infinity" || word == "nan" || isPlainDecimal body

end DbConsole.Notation

/-!
Sets of code points written as ascending ranges.
-/
set_option autoImplicit false

namespace DbConsole.Text

/-- Whether a code point lies in one of the ranges, which ascend and are closed at both ends. -/
def covers : List (Nat × Nat) → Nat → Bool
  | [], _ => false
  | (low, high) :: rest, n => low ≤ n && (n ≤ high || covers rest n)

end DbConsole.Text

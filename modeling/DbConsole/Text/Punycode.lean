/-!
The ASCII form of a label of a domain name that holds other characters: its ASCII characters, and
behind a hyphen the others as a run of differences between places of insertion, each a number of
variable length in base 36.
-/
set_option autoImplicit false

namespace DbConsole.Text.Punycode

def digit (n : Nat) : Char :=
  if n < 26 then Char.ofNat (97 + n) else Char.ofNat (22 + n)

def digitValue? (c : Char) : Option Nat :=
  let n := c.toNat
  if 97 ≤ n ∧ n ≤ 122 then some (n - 97)
  else if 65 ≤ n ∧ n ≤ 90 then some (n - 65)
  else if 48 ≤ n ∧ n ≤ 57 then some (n - 22)
  else none

/-- The least value that a digit at the place needs for another digit to follow. -/
def threshold (place bias : Nat) : Nat :=
  if place ≤ bias then 1 else min 26 (place - bias)

theorem one_le_threshold (place bias : Nat) : 1 ≤ threshold place bias := by
  unfold threshold
  split <;> omega

def shrink (delta count : Nat) : Nat × Nat :=
  if 455 < delta then shrink (delta / 35) (count + 36) else (delta, count)
termination_by delta
decreasing_by omega

/-- The bias after a number, so that the next ones, likely of its size, come out short. -/
def adapt (delta points : Nat) (first : Bool) : Nat :=
  let halved := if first then delta / 700 else delta / 2
  let (rest, count) := shrink (halved + halved / points) 0
  count + 36 * rest / (rest + 38)

def encodeNumber (bias place n : Nat) : List Char :=
  let t := threshold place bias
  if n < t then [digit n]
  else digit (t + (n - t) % (36 - t)) :: encodeNumber bias (place + 36) ((n - t) / (36 - t))
termination_by n
decreasing_by
  have h := one_le_threshold place bias
  exact Nat.lt_of_le_of_lt (Nat.div_le_self _ _) (by omega)

structure EncoderState where
  output : List Char
  delta : Nat
  bias : Nat
  handled : Nat

def encodeChar (basicCount point : Nat) (st : EncoderState) (c : Char) : EncoderState :=
  if c.toNat < point then { st with delta := st.delta + 1 }
  else if c.toNat = point then
    { output := st.output ++ encodeNumber st.bias 36 st.delta
      delta := 0
      bias := adapt st.delta (st.handled + 1) (st.handled == basicCount)
      handled := st.handled + 1 }
  else st

/-- Goes through the code points to insert, given in ascending order. -/
def encodePoints (cs : List Char) (basicCount : Nat) : List Nat → Nat → EncoderState → EncoderState
  | [], _, st => st
  | point :: points, next, st =>
    let st := { st with delta := st.delta + (point - next) * (st.handled + 1) }
    let st := cs.foldl (encodeChar basicCount point) st
    encodePoints cs basicCount points (point + 1) { st with delta := st.delta + 1 }

def encode (cs : List Char) : List Char :=
  let basic := cs.filter (·.toNat < 128)
  let points := ((cs.filter (128 ≤ ·.toNat)).map Char.toNat).mergeSort.eraseDups
  let st := encodePoints cs basic.length points 128 ⟨[], 0, 72, basic.length⟩
  basic ++ (if basic.isEmpty then [] else ['-']) ++ st.output

/-- Reads one number: the sum with it added, and the digits behind it. -/
def decodeNumber (bias : Nat) : List Char → Nat → Nat → Nat → Option (Nat × List Char)
  | [], _, _, _ => none
  | c :: rest, place, weight, sum =>
    match digitValue? c with
    | none => none
    | some d =>
      let t := threshold place bias
      if d < t then some (sum + d * weight, rest)
      else decodeNumber bias rest (place + 36) (weight * (36 - t)) (sum + d * weight)

theorem length_of_decodeNumber {bias : Nat} {cs : List Char} {place weight sum n : Nat}
    {rest : List Char} (h : decodeNumber bias cs place weight sum = some (n, rest)) :
    rest.length < cs.length := by
  induction cs generalizing place weight sum with
  | nil => simp [decodeNumber] at h
  | cons c cs ih =>
    simp only [decodeNumber] at h
    split at h
    · simp at h
    · split at h
      · simp_all
      · have := ih h
        simp only [List.length_cons]
        omega

def decodePoints (bias point index : Nat) (output digits : List Char) : Option (List Char) :=
  match digits with
  | [] => some output
  | c :: cs =>
    match _h : decodeNumber bias (c :: cs) 36 1 index with
    | none => none
    | some (n, rest) =>
      let points := output.length + 1
      let point := point + n / points
      if point.isValidChar then
        decodePoints (adapt (n - index) points (index == 0)) point (n % points + 1)
          (output.insertIdx (n % points) (Char.ofNat point)) rest
      else none
termination_by digits.length
decreasing_by
  exact length_of_decodeNumber (by assumption)

def decode (cs : List Char) : Option (List Char) :=
  let tail := (cs.reverse.takeWhile (· != '-')).reverse
  let basic := (cs.take (cs.length - tail.length)).dropLast
  if cs.all (·.toNat < 128) then decodePoints 72 128 0 basic tail else none

end DbConsole.Text.Punycode

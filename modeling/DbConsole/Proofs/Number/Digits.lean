/-!
The decimal digits that whole numbers are written with.
-/
set_option autoImplicit false

namespace DbConsole

def AllDigits (cs : List Char) : Prop :=
  ∀ c ∈ cs, c.isDigit = true

namespace AllDigits

variable {cs ds : List Char} {c : Char}

theorem notMem (digits : AllDigits cs) (other : c.isDigit = false) : c ∉ cs := fun mem => by
  rw [digits c mem] at other
  cases other

theorem append (digits : AllDigits cs) (digits' : AllDigits ds) : AllDigits (cs ++ ds) := by
  intro c mem
  rcases List.mem_append.mp mem with mem | mem
  · exact digits c mem
  · exact digits' c mem

theorem zeros (n : Nat) : AllDigits (List.replicate n '0') := fun _ mem =>
  (List.eq_of_mem_replicate mem).symm ▸ rfl

theorem of_subset (digits : AllDigits cs) (fewer : ds ⊆ cs) : AllDigits ds :=
  fun c mem => digits c (fewer mem)

theorem toDigits (n : Nat) : AllDigits (Nat.toDigits 10 n) := fun _ mem =>
  Nat.isDigit_of_mem_toDigits (by decide) (by decide) mem

end AllDigits

theorem toList_toString (n : Nat) : (toString n).toList = Nat.toDigits 10 n :=
  Nat.toList_repr

theorem length_toString (n : Nat) : (toString n).length = (Nat.toDigits 10 n).length := by
  rw [← toList_toString, String.length_toList]

theorem toList_toString_int (n : Int) :
    (toString n).toList = (if n < 0 then ['-'] else []) ++ Nat.toDigits 10 n.natAbs := by
  rw [Int.toString_eq_repr, Int.repr_eq_if]
  split
  case isTrue positive =>
    rw [Nat.toList_repr, if_neg (Int.not_lt.mpr positive), List.nil_append,
      show n.toNat = n.natAbs by omega]
  case isFalse negative =>
    rw [String.toList_append, Nat.toList_repr, if_pos (Int.not_le.mp negative),
      show (-n).toNat = n.natAbs by omega]
    rfl

theorem toDigits_injective {m n : Nat} (same : Nat.toDigits 10 m = Nat.toDigits 10 n) : m = n := by
  rw [← Nat.ofDigitChars_ten_toDigits (n := m), same, Nat.ofDigitChars_ten_toDigits]

theorem toString_nat_injective {m n : Nat} (same : toString m = toString n) : m = n := by
  have digits := congrArg String.toList same
  rw [toList_toString, toList_toString] at digits
  exact toDigits_injective digits

theorem toDigits_ne_dash (n : Nat) (rest : List Char) : Nat.toDigits 10 n ≠ '-' :: rest := fun same =>
  (AllDigits.toDigits n).notMem (c := '-') rfl (same ▸ List.mem_cons_self)

theorem toString_int_injective {m n : Int} (same : toString m = toString n) : m = n := by
  have chars := congrArg String.toList same
  rw [toList_toString_int, toList_toString_int] at chars
  split at chars <;> split at chars
  · have := toDigits_injective (List.cons.inj chars).2
    omega
  · exact absurd chars.symm (toDigits_ne_dash _ _)
  · exact absurd chars (toDigits_ne_dash _ _)
  · have := toDigits_injective chars
    omega

end DbConsole

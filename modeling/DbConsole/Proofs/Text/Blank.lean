import DbConsole.Text.Blank
import Mathlib.Data.List.TakeWhile

/-!
What is cut off where a text is freed of the white space around it.
-/
set_option autoImplicit false

namespace DbConsole.Text

/-- Nothing but white space. -/
def Blank (cs : List Char) : Prop :=
  ∀ c ∈ cs, isBlank c = true

variable {cs before behind : List Char}

theorem Blank.dropWhile_eq_nil (blank : Blank cs) : cs.dropWhile isBlank = [] :=
  List.dropWhile_eq_nil_iff.mpr blank

theorem Blank.reverse (blank : Blank cs) : Blank cs.reverse :=
  fun c mem => blank c (List.mem_reverse.mp mem)

theorem Blank.dropWhile_append (blank : Blank before) (cs : List Char) :
    (before ++ cs).dropWhile isBlank = cs.dropWhile isBlank :=
  List.dropWhile_append_of_pos blank

/-- White space around a text makes no difference. -/
theorem trimChars_surrounded (ahead : Blank before) (after : Blank behind) (core : List Char) :
    trimChars (before ++ core ++ behind) = trimChars core := by
  unfold trimChars
  rw [List.append_assoc, ahead.dropWhile_append, List.dropWhile_append]
  split
  case isTrue nothing =>
    rw [after.dropWhile_eq_nil, List.isEmpty_iff.mp nothing]
  case isFalse =>
    rw [List.reverse_append, after.reverse.dropWhile_append]

/-- Only white space is cut off. -/
theorem exists_surrounded (cs : List Char) :
    ∃ before behind, Blank before ∧ Blank behind ∧ cs = before ++ trimChars cs ++ behind := by
  let late := (cs.dropWhile isBlank).reverse
  refine ⟨cs.takeWhile isBlank, (late.takeWhile isBlank).reverse, fun c => List.mem_takeWhile_imp,
    fun c mem => List.mem_takeWhile_imp (List.mem_reverse.mp mem), ?_⟩
  have split : (late.dropWhile isBlank).reverse ++ (late.takeWhile isBlank).reverse =
      cs.dropWhile isBlank := by
    rw [← List.reverse_append, List.takeWhile_append_dropWhile, List.reverse_reverse]
  change cs = cs.takeWhile isBlank ++ (late.dropWhile isBlank).reverse ++ _
  rw [List.append_assoc, split, List.takeWhile_append_dropWhile]

/-- What a text comes to without the white space around it, told for a text that has none. -/
theorem trimChars_eq_iff {core : List Char} (tight : trimChars core = core) :
    trimChars cs = core ↔
      ∃ before behind, Blank before ∧ Blank behind ∧ cs = before ++ core ++ behind := by
  constructor
  · rintro rfl
    exact exists_surrounded cs
  · rintro ⟨before, behind, ahead, after, rfl⟩
    rw [trimChars_surrounded ahead after, tight]

end DbConsole.Text

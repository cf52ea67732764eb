import DbConsole.Proofs.Text.Blank
import DbConsole.Schema
import Mathlib.Data.List.Nodup

/-!
Which tables may be made, and what is said of the others. Names and types of columns must be filled,
and no two names of columns may be the same in lower case; the error tells what is wrong with the first
column that cannot follow the ones before it.
-/
set_option autoImplicit false

namespace DbConsole

/-- There is more than white space in the text. -/
def Filled (s : String) : Prop :=
  ¬Text.Blank s.toList

namespace ColumnSpec

/-- What counts of the name where columns are told apart. -/
def key (column : ColumnSpec) : String :=
  Text.lower column.name

/-- What is wrong with a column that follows others: it has no name; else no type; else the key is
taken. -/
inductive Flaw (taken : List String) (column : ColumnSpec) : Invalid → Prop
  | unnamed (blank : ¬Filled column.name) : Flaw taken column (.required "Column name")
  | untyped (named : Filled column.name) (blank : ¬Filled column.dataType) :
      Flaw taken column (.typeRequired column.name)
  | duplicate (named : Filled column.name) (typed : Filled column.dataType)
      (twice : column.key ∈ taken) : Flaw taken column (.duplicateColumn column.name)

/-- It does not matter in which order keys were taken. -/
theorem Flaw.of_subset {taken taken' : List String} {column : ColumnSpec} {cause : Invalid}
    (flaw : Flaw taken column cause) (same : taken ⊆ taken') : Flaw taken' column cause := by
  cases flaw with
  | unnamed blank => exact .unnamed blank
  | untyped named blank => exact .untyped named blank
  | duplicate named typed twice => exact .duplicate named typed (same twice)

end ColumnSpec

namespace TableSpec

open ColumnSpec

variable {taken : List String} {column : ColumnSpec} {columns : List ColumnSpec} {fault : Error}

/-- A sigma at the end of a word has a small form of its own. -/
example : validate ⟨"λέξεις", [.plain "ΟΔΟΣ" "text", .plain "οδος" "text"]⟩ =
    .error (.invalid (.duplicateColumn "οδος")) := rfl

end TableSpec

end DbConsole

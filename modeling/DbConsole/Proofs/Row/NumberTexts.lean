import DbConsole.Proofs.Dict
import DbConsole.Proofs.Number.Typed
import DbConsole.Row.Check

/-!
Rows that hold a number and rows that hold the text of that number. Both are accepted alike, except that
a whole number that needs all 64 bits is accepted in a column of integers and its text is not.
-/
set_option autoImplicit false

namespace DbConsole

/-! ### Rows by their cells -/

theorem checkCells_eq_ok_iff {columns : List Column} {cells : List (String × Cell)} :
    checkCells columns cells = .ok () ↔ ∀ p ∈ cells, checkCell columns p.1 p.2 = .ok () := by
  induction cells with
  | nil => simp [checkCells]
  | cons p rest ih =>
    rw [List.forall_mem_cons, ← ih, checkCells]
    cases checkCell columns p.1 p.2 with
    | ok => simp [bind, Except.bind]
    | error e => simp [bind, Except.bind]

variable {columns : List Column} {name : String}

/-- A row with a cell is accepted just if the cell is, and all others are. -/
theorem checkRow_insert_eq_ok_iff (row : Row) (cell : Cell) (write : RowWrite) :
    checkRow (row.insert name cell) columns write = .ok () ↔
      checkCell columns name cell = .ok () ∧
        ∀ other held, other ≠ name → row.get? other = some held →
          checkCell columns other held = .ok () := by
  have some_ : (row.insert name cell).isEmpty = false := by
    have here := (Dict.mem_entries_iff (row.insert name cell) name cell).mpr
      (by rw [Dict.get?_insert, if_pos rfl])
    rw [Dict.isEmpty, List.isEmpty_eq_false_iff]
    exact List.ne_nil_of_mem here
  unfold checkRow
  rw [some_, if_neg (by decide), checkCells_eq_ok_iff, Prod.forall]
  simp only [Dict.mem_entries_iff, Dict.get?_insert]
  constructor
  · intro all
    refine ⟨all name cell (if_pos rfl), fun other held apart found => ?_⟩
    apply all other held
    rw [if_neg apart, found]
  · rintro ⟨here, others⟩ other held found
    by_cases same : other = name
    · rw [if_pos same] at found
      rw [same, ← Option.some.inj found]
      exact here
    · rw [if_neg same] at found
      exact others other held same found

/-- A cell that is not null is accepted just if its column is there and is of a type that admits it. -/
theorem checkCell_eq_ok_iff {cell : Cell} (filled : cell.isNull = false) :
    checkCell columns name cell = .ok () ↔ ∃ column,
      columns.find? (·.name == name) = some column ∧
        (ColumnKind.ofType column.dataType).admits cell = true := by
  rw [checkCell]
  cases columns.find? (·.name == name) with
  | none => simp
  | some column => simp [filled]

/-! ### Numbers and their texts -/

namespace ColumnKind

/-- No text of a number is the word of a truth value. -/
theorem text_ne_of_letter (n : Number) {s : String} {c : Char} (within : c ∈ s.toList)
    (letter : ¬IsNumeric c) : n.text ≠ s := by
  intro same
  rw [← same] at within
  exact letter (n.isNumeric_of_mem_text c within)

theorem admits_text_boolean (n : Number) :
    boolean.admits (.text n.text) = boolean.admits (.number n) := by
  have written (m : Int) : n.text = (Number.whole m).text ↔ n = .whole m :=
    ⟨Number.text_injective, congrArg Number.text⟩
  have zero : n.text = "0" ↔ n = .whole 0 := written 0
  have one : n.text = "1" ↔ n = .whole 1 := written 1
  have notTrue : n.text ≠ "true" := text_ne_of_letter n (c := 't') (by decide) (by decide)
  have notFalse : n.text ≠ "false" := text_ne_of_letter n (c := 'f') (by decide) (by decide)
  have notT : n.text ≠ "t" := text_ne_of_letter n (c := 't') (by decide) (by decide)
  have notF : n.text ≠ "f" := text_ne_of_letter n (c := 'f') (by decide) (by decide)
  rw [Bool.eq_iff_iff]
  simp only [admits, n.trim_text, n.asciiLower_text, List.contains_cons, List.contains_nil,
    Bool.or_eq_true, beq_iff_eq, notTrue, notFalse, notT, notF, zero, one, false_or,
    Bool.false_eq_true, or_false]
  exact or_comm

/-- What is admitted as a number is admitted as its text, and the other way round, except in a column
of integers: there 64 bits must hold it with a sign. -/
theorem admits_text_iff (kind : ColumnKind) (n : Number) :
    kind.admits (.text n.text) = true ↔
      kind.admits (.number n) = true ∧ (kind = .integer → n.isSigned = true) := by
  cases kind with
  | integer =>
    have text : integer.admits (.text n.text) = n.isSigned := by
      rw [admits, n.trim_text, Notation.isSome_integer?_text]
    have whole : n.isSigned = true → integer.admits (.number n) = true := by
      cases n with
      | whole m => exact fun _ => rfl
      | real x => exact fun signed => signed
    rw [text]
    exact ⟨fun signed => ⟨whole signed, fun _ => signed⟩, fun both => both.2 rfl⟩
  | decimal =>
    have text : decimal.admits (.text n.text) = true := by
      rw [admits, n.trim_text, n.isDecimal_text]
    exact ⟨fun _ => ⟨rfl, nofun⟩, fun _ => text⟩
  | boolean =>
    rw [admits_text_boolean]
    exact ⟨fun admitted => ⟨admitted, nofun⟩, And.left⟩
  | other => exact ⟨fun _ => ⟨rfl, nofun⟩, fun _ => rfl⟩

end ColumnKind

/-- A row with the text of a number is accepted just if the row with the number is and 64 bits hold it
with a sign, should its column be one of integers. -/
theorem checkRow_insert_text_iff (n : Number) (row : Row) (write : RowWrite) :
    checkRow (row.insert name (.text n.text)) columns write = .ok () ↔
      checkRow (row.insert name (.number n)) columns write = .ok () ∧
        ∀ column, columns.find? (·.name == name) = some column →
          ColumnKind.ofType column.dataType = .integer → n.isSigned = true := by
  rw [checkRow_insert_eq_ok_iff, checkRow_insert_eq_ok_iff, checkCell_eq_ok_iff rfl,
    checkCell_eq_ok_iff rfl]
  constructor
  · intro ⟨⟨column, found, admitted⟩, others⟩
    have ⟨number, signed⟩ := (ColumnKind.admits_text_iff _ n).mp admitted
    refine ⟨⟨⟨column, found, number⟩, others⟩, fun column' found' integers => ?_⟩
    rw [found] at found'
    cases found'
    exact signed integers
  · intro ⟨⟨⟨column, found, admitted⟩, others⟩, signed⟩
    have both := (ColumnKind.admits_text_iff _ n).mpr ⟨admitted, signed column found⟩
    exact ⟨⟨column, found, both⟩, others⟩

/-- In a column of integers only whole numbers are accepted. -/
theorem isWhole_of_checkRow_insert {n : Number} {row : Row} {write : RowWrite} {column : Column}
    (accepted : checkRow (row.insert name (.number n)) columns write = .ok ())
    (found : columns.find? (·.name == name) = some column)
    (integers : ColumnKind.ofType column.dataType = .integer) : n.isWhole = true := by
  have cell := ((checkRow_insert_eq_ok_iff row (.number n) write).mp accepted).1
  have ⟨column', found', admitted⟩ := (checkCell_eq_ok_iff rfl).mp cell
  rw [found] at found'
  cases found'
  rw [integers] at admitted
  exact admitted

/-- A row with the text of a number is accepted just if the row with the number is and 64 bits hold it
with a sign, should its column be one of integers. So for one column and one number, rows with either
are all accepted alike just if 64 bits hold the number with a sign, or it is not whole, or the column
is none of integers. -/
theorem numbers_and_texts_alike_iff (columns : List Column) (name : String) (n : Number) :
    (∀ (row : Row) write, checkRow (row.insert name (.text n.text)) columns write = .ok () ↔
        checkRow (row.insert name (.number n)) columns write = .ok () ∧
          ∀ column, columns.find? (·.name == name) = some column →
            ColumnKind.ofType column.dataType = .integer → n.isSigned = true) ∧
      ((∀ (row : Row) write, checkRow (row.insert name (.number n)) columns write = .ok () ↔
          checkRow (row.insert name (.text n.text)) columns write = .ok ()) ↔
        ∀ column, columns.find? (·.name == name) = some column →
          ColumnKind.ofType column.dataType = .integer → n.isWhole = true → n.isSigned = true) := by
  refine ⟨checkRow_insert_text_iff n, fun alike column found integers whole => ?_,
    fun within row write => ?_⟩
  · have accepted : checkRow (Dict.empty.insert name (.number n)) columns .insert = .ok () := by
      rw [checkRow_insert_eq_ok_iff, checkCell_eq_ok_iff rfl]
      refine ⟨⟨column, found, ?_⟩, fun other held _ none => by cases none⟩
      rw [integers]
      exact whole
    have text := (alike Dict.empty .insert).mp accepted
    exact ((checkRow_insert_text_iff n Dict.empty .insert).mp text).2 column found integers
  · rw [checkRow_insert_text_iff]
    refine ⟨fun accepted => ⟨accepted, fun column found integers => ?_⟩, And.left⟩
    exact within column found integers (isWhole_of_checkRow_insert accepted found integers)

/-- A column of large integers that may be left out of no row. -/
def accountNumbers : List Column :=
  [⟨"id", "bigint", false, true, none⟩]

/-- The least number that needs all 64 bits is accepted in a column of integers and its text is not. -/
theorem leastUnsigned_accepted_only_as_number :
    let n : Number := .whole 9223372036854775808
    checkRow (Dict.empty.insert "id" (.number n)) accountNumbers .insert = .ok () ∧
      checkRow (Dict.empty.insert "id" (.text n.text)) accountNumbers .insert =
        .error (.invalid (.wrongCell "id" "bigint" "string" "9223372036854775808")) ∧
      n.text = "9223372036854775808" :=
  ⟨rfl, rfl, rfl⟩

end DbConsole

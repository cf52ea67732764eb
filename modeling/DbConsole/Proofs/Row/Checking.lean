import DbConsole.Proofs.Row.ColumnTypes
import DbConsole.Proofs.Row.NumberTexts

/-!
Which rows are accepted, and what is said of the others. A row is accepted just if it has a cell and
each cell fits the first column of its name; of a row that is refused, the error tells what is wrong
with the first cell that does not fit, in the order of the names.
-/
set_option autoImplicit false

namespace DbConsole

variable {columns : List Column} {name : String} {cell : Cell} {fault : Error}

/-! ### One cell -/

/-- The column is the first one of the name. -/
def FirstNamed (columns : List Column) (name : String) (column : Column) : Prop :=
  ∃ before behind, columns = before ++ column :: behind ∧ column.name = name ∧
    ∀ earlier ∈ before, earlier.name ≠ name

theorem find?_eq_some_iff_firstNamed {column : Column} :
    columns.find? (·.name == name) = some column ↔ FirstNamed columns name column := by
  rw [List.find?_eq_some_iff_append, FirstNamed]
  simp only [beq_iff_eq, Bool.not_eq_true', beq_eq_false_iff_ne]
  constructor
  · rintro ⟨named, before, behind, split, others⟩
    exact ⟨before, behind, split, named, others⟩
  · rintro ⟨before, behind, split, named, others⟩
    exact ⟨named, before, behind, split, others⟩

/-- NULL may stand in the column. -/
def Column.TakesNull (column : Column) : Prop :=
  column.nullable = true ∨ column.defaultValue ≠ none

/-- The cell may stand under the name. -/
def Fits (columns : List Column) (name : String) (cell : Cell) : Prop :=
  ∃ column, FirstNamed columns name column ∧ (cell = .null → column.TakesNull) ∧ column.Holds cell

/-- What is wrong with a cell: its column is unknown; else it is NULL and may not be; else it is of
a type that the column does not hold. -/
inductive Offence (columns : List Column) (name : String) (cell : Cell) : Invalid → Prop
  | unknown (absent : ∀ column ∈ columns, column.name ≠ name) :
      Offence columns name cell (.unknownColumn name)
  | null {column : Column} (first : FirstNamed columns name column) (null : cell = .null)
      (needed : ¬column.TakesNull) : Offence columns name cell (.nullForbidden name)
  | mistyped {column : Column} (first : FirstNamed columns name column)
      (allowed : cell = .null → column.TakesNull) (foreign : ¬column.Holds cell) :
      Offence columns name cell (.wrongCell name column.dataType cell.typeName cell.display)

theorem find?_eq_none_iff_absent :
    columns.find? (·.name == name) = none ↔ ∀ column ∈ columns, column.name ≠ name := by
  simp [List.find?_eq_none]

theorem forbids_iff (column : Column) (cell : Cell) :
    (cell.isNull && !column.nullable && !column.hasDefault) = true ↔
      ¬(cell = .null → column.TakesNull) := by
  have null : cell.isNull = true ↔ cell = .null := by cases cell <;> simp [Cell.isNull]
  have bare : column.hasDefault = false ↔ column.defaultValue = none := by
    rw [Column.hasDefault, Option.isSome_eq_false_iff, Option.isNone_iff_eq_none]
  rw [Bool.and_eq_true, Bool.and_eq_true, null, Bool.not_eq_true', Bool.not_eq_true', bare,
    Classical.not_imp, Column.TakesNull, not_or, Bool.not_eq_true, not_not, and_assoc]

theorem rejects_iff (column : Column) (cell : Cell) :
    (!(ColumnKind.ofType column.dataType).admits cell) = true ↔ ¬column.Holds cell := by
  rw [column.holds_iff, Bool.not_eq_true', Bool.not_eq_true]

theorem checkCell_of_fits (fits : Fits columns name cell) :
    checkCell columns name cell = .ok () := by
  obtain ⟨column, first, allowed, held⟩ := fits
  rw [checkCell, find?_eq_some_iff_firstNamed.mpr first]
  simp only
  rw [if_neg (mt (forbids_iff column cell).mp (not_not.mpr allowed)),
    if_neg (mt (rejects_iff column cell).mp (not_not.mpr held))]

theorem checkCell_of_offence {cause : Invalid} (offence : Offence columns name cell cause) :
    checkCell columns name cell = .error (.invalid cause) := by
  cases offence with
  | unknown absent => rw [checkCell, find?_eq_none_iff_absent.mpr absent]
  | @null column first null needed =>
    rw [checkCell, find?_eq_some_iff_firstNamed.mpr first]
    exact if_pos ((forbids_iff column cell).mpr fun allowed => needed (allowed null))
  | @mistyped column first allowed foreign =>
    rw [checkCell, find?_eq_some_iff_firstNamed.mpr first]
    simp only
    rw [if_neg (mt (forbids_iff column cell).mp (not_not.mpr allowed)),
      if_pos ((rejects_iff column cell).mpr foreign)]

theorem fits_or_offence (columns : List Column) (name : String) (cell : Cell) :
    Fits columns name cell ∨ ∃ cause, Offence columns name cell cause := by
  cases found : columns.find? (·.name == name) with
  | none => exact .inr ⟨_, .unknown (find?_eq_none_iff_absent.mp found)⟩
  | some column =>
    have first := find?_eq_some_iff_firstNamed.mp found
    by_cases allowed : cell = .null → column.TakesNull
    · by_cases held : column.Holds cell
      · exact .inl ⟨column, first, allowed, held⟩
      · exact .inr ⟨_, .mistyped first allowed held⟩
    · have ⟨null, needed⟩ := Classical.not_imp.mp allowed
      exact .inr ⟨_, .null first null needed⟩

/-- A cell is accepted just if it fits. -/
theorem checkCell_eq_ok_iff_fits : checkCell columns name cell = .ok () ↔ Fits columns name cell := by
  refine ⟨fun accepted => ?_, checkCell_of_fits⟩
  rcases fits_or_offence columns name cell with fits | ⟨cause, offence⟩
  · exact fits
  · cases accepted.symm.trans (checkCell_of_offence offence)

/-- A cell is refused just for what is wrong with it. -/
theorem checkCell_eq_error_iff : checkCell columns name cell = .error fault ↔
    ∃ cause, Offence columns name cell cause ∧ fault = .invalid cause := by
  constructor
  · intro refused
    rcases fits_or_offence columns name cell with fits | ⟨cause, offence⟩
    · cases refused.symm.trans (checkCell_of_fits fits)
    · exact ⟨cause, offence, Except.error.inj (refused.symm.trans (checkCell_of_offence offence))⟩
  · rintro ⟨cause, offence, rfl⟩
    exact checkCell_of_offence offence

/-! ### A row -/

/-- Of the cells that are checked in turn the first one that is refused is told. -/
theorem checkCells_eq_error_iff {cells : List (String × Cell)} :
    checkCells columns cells = .error fault ↔ ∃ before name cell behind,
      cells = before ++ (name, cell) :: behind ∧
        (∀ p ∈ before, checkCell columns p.1 p.2 = .ok ()) ∧
        checkCell columns name cell = .error fault := by
  induction cells with
  | nil => simp [checkCells]
  | cons p rest ih =>
    obtain ⟨name, cell⟩ := p
    cases checked : checkCell columns name cell with
    | error e =>
      have whole : checkCells columns ((name, cell) :: rest) = .error e := by
        rw [checkCells, checked]
        rfl
      rw [whole]
      constructor
      · rintro ⟨⟩
        exact ⟨[], name, cell, rest, rfl, List.forall_mem_nil _, checked⟩
      · rintro ⟨before, name', cell', behind, split, accepted, refused⟩
        cases before with
        | nil =>
          cases split
          exact checked.symm.trans refused
        | cons q before =>
          cases split
          cases checked.symm.trans (accepted _ List.mem_cons_self)
    | ok =>
      have whole : checkCells columns ((name, cell) :: rest) = checkCells columns rest := by
        rw [checkCells, checked]
        rfl
      rw [whole, ih]
      constructor
      · rintro ⟨before, name', cell', behind, rfl, accepted, refused⟩
        exact ⟨(name, cell) :: before, name', cell', behind, rfl,
          List.forall_mem_cons.mpr ⟨checked, accepted⟩, refused⟩
      · rintro ⟨before, name', cell', behind, split, accepted, refused⟩
        cases before with
        | nil =>
          cases split
          cases checked.symm.trans refused
        | cons q before =>
          cases split
          exact ⟨before, name', cell', behind, rfl, (List.forall_mem_cons.mp accepted).2, refused⟩

/-- The cells of a row are checked by name, and the first name with a cell that does not fit is told. -/
theorem checkCells_entries_eq_error_iff (row : Row) :
    checkCells columns row.entries = .error fault ↔ ∃ name cell cause,
      row.get? name = some cell ∧ Offence columns name cell cause ∧ fault = .invalid cause ∧
        ∀ other held, row.get? other = some held → other < name → Fits columns other held := by
  rw [checkCells_eq_error_iff]
  constructor
  · rintro ⟨before, name, cell, behind, split, accepted, refused⟩
    obtain ⟨cause, offence, rfl⟩ := checkCell_eq_error_iff.mp refused
    have here : (name, cell) ∈ row.entries := split ▸ List.mem_append_right _ List.mem_cons_self
    refine ⟨name, cell, cause, (row.mem_entries_iff name cell).mp here, offence, rfl, ?_⟩
    intro other held found less
    have mem := (row.mem_entries_iff other held).mpr found
    have early : (other, held) ∈ before :=
      (mem_before_iff (split ▸ row.ascending)).mpr ⟨split ▸ mem, less⟩
    exact checkCell_eq_ok_iff_fits.mp (accepted _ early)
  · rintro ⟨name, cell, cause, found, offence, rfl, fit⟩
    obtain ⟨before, behind, split⟩ :=
      List.append_of_mem ((row.mem_entries_iff name cell).mpr found)
    refine ⟨before, name, cell, behind, split, fun p early => ?_, checkCell_of_offence offence⟩
    have ⟨mem, less⟩ := (mem_before_iff (split ▸ row.ascending)).mp early
    have held := (row.mem_entries_iff p.1 p.2).mp (split ▸ mem)
    exact checkCell_of_fits (fit p.1 p.2 held less)

theorem checkRow_eq_error_iff_of_isEmpty {row : Row} {write : RowWrite} (empty : row.isEmpty = true) :
    checkRow row columns write = .error fault ↔
      write = .insert ∧ fault = .invalid .emptyInsert ∨
        write = .update ∧ fault = .invalid .emptyUpdate := by
  cases write with
  | insert =>
    have refused : checkRow row columns .insert = .error (.invalid .emptyInsert) := if_pos empty
    rw [refused]
    constructor
    · rintro ⟨⟩
      exact .inl ⟨rfl, rfl⟩
    · rintro (⟨-, rfl⟩ | ⟨⟨⟩, -⟩)
      rfl
  | update =>
    have refused : checkRow row columns .update = .error (.invalid .emptyUpdate) := if_pos empty
    rw [refused]
    constructor
    · rintro ⟨⟩
      exact .inr ⟨rfl, rfl⟩
    · rintro (⟨⟨⟩, -⟩ | ⟨-, rfl⟩)
      rfl

/-- A row is accepted just if it has a cell and each of its cells fits. A row without cells is refused
as such. Of any other row that is refused the error tells what is wrong with the cell of the smallest
name that has one that does not fit. -/
theorem checkRow_exact (row : Row) (columns : List Column) (write : RowWrite) :
    (checkRow row columns write = .ok () ↔
      (∃ name cell, row.get? name = some cell) ∧
        ∀ name cell, row.get? name = some cell → Fits columns name cell) ∧
    ∀ fault, checkRow row columns write = .error fault ↔
      ((∀ name, row.get? name = none) ∧
        (write = .insert ∧ fault = .invalid .emptyInsert ∨
          write = .update ∧ fault = .invalid .emptyUpdate)) ∨
      ∃ name cell cause, row.get? name = some cell ∧ Offence columns name cell cause ∧
        fault = .invalid cause ∧
        ∀ other held, row.get? other = some held → other < name → Fits columns other held := by
  by_cases empty : row.isEmpty = true
  · have nothing := row.isEmpty_iff.mp empty
    refine ⟨⟨fun accepted => ?_, ?_⟩, fun fault => ?_⟩
    · unfold checkRow at accepted
      rw [if_pos empty] at accepted
      cases accepted
    · rintro ⟨⟨name, cell, found⟩, -⟩
      cases (nothing name).symm.trans found
    · rw [checkRow_eq_error_iff_of_isEmpty empty]
      refine ⟨fun told => .inl ⟨nothing, told⟩, fun told => ?_⟩
      rcases told with ⟨-, told⟩ | ⟨name, cell, cause, found, -⟩
      · exact told
      · cases (nothing name).symm.trans found
  · have some_ : ∃ name cell, row.get? name = some cell := by
      by_contra none_
      refine empty (row.isEmpty_iff.mpr fun name => Option.eq_none_iff_forall_ne_some.mpr ?_)
      exact fun cell found => none_ ⟨name, cell, found⟩
    have checked : checkRow row columns write = checkCells columns row.entries := if_neg empty
    rw [checked]
    refine ⟨?_, fun fault => ?_⟩
    · rw [checkCells_eq_ok_iff, Prod.forall]
      simp only [row.mem_entries_iff, checkCell_eq_ok_iff_fits]
      exact ⟨fun fit => ⟨some_, fit⟩, And.right⟩
    · rw [checkCells_entries_eq_error_iff]
      refine ⟨.inr, ?_⟩
      rintro (⟨nothing, -⟩ | told)
      · obtain ⟨name, cell, found⟩ := some_
        cases (nothing name).symm.trans found
      · exact told

/-- Of an unknown column and a NULL that is not allowed, the one with the smaller name is told. -/
example : checkRow ((Dict.empty.insert "nick" (.text "x")).insert "id" .null)
    [⟨"id", "bigint", false, true, none⟩] .update = .error (.invalid (.nullForbidden "id")) := rfl

end DbConsole

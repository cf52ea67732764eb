import DbConsole.Proofs.Dict
import DbConsole.Proofs.Number.Spelling
import DbConsole.Row.Key

/-!
Which rows have an id, and which have the same. The id is the text of the value in the first column
that is marked as primary key, so it tells rows apart just as far as that one column does. A row that
has none is told apart by its position, under which it cannot be changed.
-/
set_option autoImplicit false

namespace DbConsole

namespace RowId

theorem ofCell_eq_ok_iff {cell : Cell} {id : RowId} : ofCell cell = .ok id ↔
    (cell = .text id.text ∧ id.text ≠ "") ∨ ∃ n : Number, cell = .number n ∧ n.text = id.text := by
  obtain ⟨text⟩ := id
  cases cell with
  | text s =>
    rw [ofCell]
    split
    · constructor
      · rintro ⟨⟩
      · rintro (⟨⟨⟩, filled⟩ | ⟨_, ⟨⟩, _⟩)
        contradiction
    · constructor
      · rintro ⟨⟩
        exact .inl ⟨rfl, ‹_›⟩
      · rintro (⟨⟨⟩, _⟩ | ⟨_, ⟨⟩, _⟩)
        rfl
  | number n =>
    constructor
    · rintro ⟨⟩
      exact .inr ⟨n, rfl, rfl⟩
    · rintro (⟨⟨⟩, _⟩ | ⟨_, ⟨⟩, rfl⟩)
      rfl
  | null => exact ⟨by rintro ⟨⟩, by rintro (⟨⟨⟩, _⟩ | ⟨_, ⟨⟩, _⟩)⟩
  | bool b => exact ⟨by rintro ⟨⟩, by rintro (⟨⟨⟩, _⟩ | ⟨_, ⟨⟩, _⟩)⟩
  | json j => exact ⟨by rintro ⟨⟩, by rintro (⟨⟨⟩, _⟩ | ⟨_, ⟨⟩, _⟩)⟩

/-- There is something in every id. -/
theorem text_ne_empty_of_ofCell {cell : Cell} {id : RowId} (of : ofCell cell = .ok id) :
    id.text ≠ "" := by
  rcases ofCell_eq_ok_iff.mp of with ⟨-, filled⟩ | ⟨n, -, text⟩
  · exact filled
  · exact text ▸ n.text_ne_empty

/-- Keys of one type are the same only for one value. -/
theorem cell_eq_of_ofCell {cell cell' : Cell} {id : RowId} (kind : cell.typeName = cell'.typeName)
    (of : ofCell cell = .ok id) (of' : ofCell cell' = .ok id) : cell = cell' := by
  rcases ofCell_eq_ok_iff.mp of with ⟨rfl, -⟩ | ⟨m, rfl, text⟩ <;>
    rcases ofCell_eq_ok_iff.mp of' with ⟨rfl, -⟩ | ⟨n, rfl, text'⟩
  · rfl
  · exact absurd kind (by simp [Cell.typeName])
  · exact absurd kind (by simp [Cell.typeName])
  · rw [Number.text_injective (text.trans text'.symm)]

end RowId

section Rows

variable {table : String} {columns : List Column} {row row' : Row} {id id' : RowId}

theorem exists_primaryKey?_of_rowId (found : rowId table row columns = .ok id) :
    ∃ pk cell, primaryKey? columns = some pk ∧ row.get? pk.name = some cell ∧
      RowId.ofCell cell = .ok id := by
  unfold rowId at found
  split at found
  case h_1 => cases found
  case h_2 pk first =>
    split at found
    case h_1 => cases found
    case h_2 cell held => exact ⟨pk, cell, first, held, found⟩

/-- A row is shown under its key exactly if it can be changed under that key. -/
theorem RowRef.ofRow_eq_key_iff (index : Nat) :
    RowRef.ofRow row columns index = .key id ↔ rowId table row columns = .ok id := by
  unfold RowRef.ofRow rowId
  cases primaryKey? columns with
  | none => exact ⟨by rintro ⟨⟩, by rintro ⟨⟩⟩
  | some pk =>
    cases held : row.get? pk.name with
    | none => simp [held]
    | some cell => cases made : RowId.ofCell cell <;> simp [held, made]

/-- A row that has no id is told apart by its position. -/
theorem RowRef.ofRow_eq_position (index : Nat) (keyless : ∀ id, rowId table row columns ≠ .ok id) :
    RowRef.ofRow row columns index = .position index := by
  cases made : RowRef.ofRow row columns index with
  | key id => exact absurd ((RowRef.ofRow_eq_key_iff index).mp made) (keyless id)
  | position place =>
    unfold RowRef.ofRow at made
    split at made
    case h_1 => rw [← made]
    case h_2 =>
      split at made
      case h_1 => cases made
      case h_2 => rw [← made]

theorem RowRef.toId_eq_ok_iff {ref : RowRef} : ref.toId table = .ok id ↔ ref = .key id := by
  cases ref <;> simp [RowRef.toId]

theorem rowId_of_unmarked (unmarked : ∀ c ∈ columns, c.isPrimaryKey = false) :
    rowId table row columns = .error (.noPrimaryKey table) := by
  have none_ : primaryKey? columns = none :=
    List.find?_eq_none.mpr fun c mem => by simp [unmarked c mem]
  rw [rowId, none_]

/-- The id that a row is shown under is the one that it can be changed under, and it is never empty.
Where no column is marked as primary key there is neither, for that reason. In every other case without
an id the row is shown under its position, under which no row can be changed. -/
theorem RowRef.toId_agrees (table : String) (row : Row) (columns : List Column) (index : Nat) :
    (∀ id, (RowRef.ofRow row columns index).toId table = .ok id ↔ rowId table row columns = .ok id) ∧
    (∀ id, rowId table row columns = .ok id → id.text ≠ "") ∧
    ((∀ c ∈ columns, c.isPrimaryKey = false) →
      (RowRef.ofRow row columns index).toId table = .error (.noPrimaryKey table) ∧
        rowId table row columns = .error (.noPrimaryKey table)) ∧
    ((∀ id, rowId table row columns ≠ .ok id) →
      RowRef.ofRow row columns index = .position index ∧
        (RowRef.ofRow row columns index).toId table = .error (.noPrimaryKey table)) ∧
    ∀ place id, (RowRef.position place).toId table ≠ .ok id := by
  have refused (keyless : ∀ id, rowId table row columns ≠ .ok id) :
      RowRef.ofRow row columns index = .position index ∧
        (RowRef.ofRow row columns index).toId table = .error (.noPrimaryKey table) := by
    have position := RowRef.ofRow_eq_position index keyless
    exact ⟨position, by rw [position]; rfl⟩
  refine ⟨fun id => ?_, fun id made => ?_, fun unmarked => ?_, refused, nofun⟩
  · rw [RowRef.toId_eq_ok_iff, RowRef.ofRow_eq_key_iff]
  · obtain ⟨_, cell, _, _, of⟩ := exists_primaryKey?_of_rowId made
    exact RowId.text_ne_empty_of_ofCell of
  · have keyless : rowId table row columns = .error (.noPrimaryKey table) :=
      rowId_of_unmarked unmarked
    exact ⟨(refused fun id => by rw [keyless]; nofun).2, keyless⟩

/-- Both rows have a value in each column of the primary key, and the two are of one type. -/
def SameTypes (columns : List Column) (row row' : Row) : Prop :=
  ∀ c ∈ columns, c.isPrimaryKey = true → ∃ cell cell', row.get? c.name = some cell ∧
    row'.get? c.name = some cell' ∧ cell.typeName = cell'.typeName

def DifferInKey (columns : List Column) (row row' : Row) : Prop :=
  ∃ c ∈ columns, c.isPrimaryKey = true ∧ row.get? c.name ≠ row'.get? c.name

/-- Rows of the table that differ in their primary key have different ids. -/
def IdsTellApart (columns : List Column) : Prop :=
  ∀ (table : String) (row row' : Row) (id id' : RowId), rowId table row columns = .ok id →
    rowId table row' columns = .ok id' → SameTypes columns row row' → DifferInKey columns row row' →
    id ≠ id'

theorem primaryKey?_mem {pk : Column} (first : primaryKey? columns = some pk) :
    pk ∈ columns ∧ pk.isPrimaryKey = true :=
  ⟨List.mem_of_find?_eq_some first, List.find?_some first⟩

/-- Rows have the same id exactly if they agree in the first column of the primary key. -/
theorem id_eq_iff {pk : Column} (first : primaryKey? columns = some pk)
    (of : rowId table row columns = .ok id) (of' : rowId table row' columns = .ok id')
    (types : SameTypes columns row row') : id = id' ↔ row.get? pk.name = row'.get? pk.name := by
  obtain ⟨pk, cell, found, held, key⟩ := exists_primaryKey?_of_rowId of
  obtain ⟨pk, cell', found', held', key'⟩ := exists_primaryKey?_of_rowId of'
  cases first.symm.trans found
  cases first.symm.trans found'
  have ⟨mem, marked⟩ := primaryKey?_mem first
  obtain ⟨_, _, held₁, held₁', kind⟩ := types pk mem marked
  rw [held] at held₁
  rw [held'] at held₁'
  cases held₁
  cases held₁'
  rw [held, held']
  constructor
  · rintro rfl
    rw [RowId.cell_eq_of_ofCell kind key key']
  · rintro ⟨⟩
    exact Except.ok.inj (key.symm.trans key')

/-- A row that holds the cell in each of the columns. -/
def uniformRow (columns : List Column) (cell : Cell) : Row :=
  columns.foldr (fun c row => row.insert c.name cell) Dict.empty

theorem get?_uniformRow {cell : Cell} {c : Column} (mem : c ∈ columns) :
    (uniformRow columns cell).get? c.name = some cell := by
  induction columns with
  | nil => cases mem
  | cons d columns ih =>
    change ((uniformRow columns cell).insert d.name cell).get? c.name = some cell
    rw [Dict.get?_insert]
    split
    case isTrue => rfl
    case isFalse other =>
      exact ih ((List.mem_cons.mp mem).resolve_left fun same => other (same ▸ rfl))

theorem rowId_of_text {pk : Column} {text : String} (first : primaryKey? columns = some pk)
    (held : row.get? pk.name = some (.text text)) (filled : text ≠ "") :
    rowId table row columns = .ok ⟨text⟩ := by
  simp [rowId, first, held, RowId.ofCell, filled]

/-- A column of the primary key beside the first one is not in the id, so rows can differ in it
alone. -/
theorem name_eq_of_idsTellApart {pk c : Column} (apart : IdsTellApart columns)
    (first : primaryKey? columns = some pk) (mem : c ∈ columns) (marked : c.isPrimaryKey = true) :
    c.name = pk.name := by
  by_contra other
  let row := uniformRow columns (.text "a")
  have all {d : Column} (mem : d ∈ columns) : row.get? d.name = some (.text "a") :=
    get?_uniformRow mem
  have changed (name : String) : (row.insert c.name (.text "b")).get? name =
      if name = c.name then some (.text "b") else row.get? name :=
    Dict.get?_insert _ _ _ _
  have pkMem := (primaryKey?_mem first).1
  refine apart "" row (row.insert c.name (.text "b")) ⟨"a"⟩ ⟨"a"⟩
    (rowId_of_text first (all pkMem) (by decide)) (rowId_of_text first ?_ (by decide)) ?_ ?_ rfl
  · rw [changed, if_neg (Ne.symm other), all pkMem]
  · intro d dMem _
    rw [changed, all dMem]
    split
    · exact ⟨_, _, rfl, rfl, rfl⟩
    · exact ⟨_, _, rfl, rfl, rfl⟩
  · refine ⟨c, mem, marked, ?_⟩
    rw [changed, if_pos rfl, all mem]
    simp

/-- Ids tell rows apart in exactly the tables whose primary key is one column. -/
theorem idsTellApart_iff (columns : List Column) : IdsTellApart columns ↔
    ∀ c ∈ columns, ∀ c' ∈ columns, c.isPrimaryKey = true → c'.isPrimaryKey = true →
      c.name = c'.name := by
  constructor
  · intro apart c mem c' mem' marked marked'
    have keyed : (primaryKey? columns).isSome := List.find?_isSome.mpr ⟨c, mem, marked⟩
    obtain ⟨pk, first⟩ := Option.isSome_iff_exists.mp keyed
    rw [name_eq_of_idsTellApart apart first mem marked,
      name_eq_of_idsTellApart apart first mem' marked']
  · intro one table row row' id id' of of' types ⟨c, mem, marked, differ⟩ same
    obtain ⟨pk, cell, first, -⟩ := exists_primaryKey?_of_rowId of
    have ⟨pkMem, pkMarked⟩ := primaryKey?_mem first
    rw [one c mem pk pkMem marked pkMarked] at differ
    exact differ ((id_eq_iff first of of' types).mp same)

/-- The columns of a table whose primary key is an order and a line in it. -/
def orderLineColumns : List Column :=
  [⟨"order_id", "integer", false, true, none⟩, ⟨"line_no", "integer", false, true, none⟩]

def orderLine (line : Int) : Row :=
  (Dict.empty.insert "order_id" (.number (.whole 1))).insert "line_no" (.number (.whole line))

theorem get?_orderLine (line : Int) (name : String) : (orderLine line).get? name =
    if name = "line_no" then some (.number (.whole line))
    else if name = "order_id" then some (.number (.whole 1)) else Dict.empty.get? name := by
  rw [orderLine, Dict.get?_insert, Dict.get?_insert]

/-- Two lines of one order both have the order's number as id. -/
theorem order_lines_share_id :
    rowId "order_lines" (orderLine 1) orderLineColumns = .ok ⟨"1"⟩ ∧
      rowId "order_lines" (orderLine 2) orderLineColumns = .ok ⟨"1"⟩ ∧
      SameTypes orderLineColumns (orderLine 1) (orderLine 2) ∧
      DifferInKey orderLineColumns (orderLine 1) (orderLine 2) ∧
      ¬ IdsTellApart orderLineColumns := by
  have order (line : Int) : (orderLine line).get? "order_id" = some (.number (.whole 1)) :=
    get?_orderLine line "order_id"
  have number (line : Int) : (orderLine line).get? "line_no" = some (.number (.whole line)) :=
    get?_orderLine line "line_no"
  have id (line : Int) : rowId "order_lines" (orderLine line) orderLineColumns = .ok ⟨"1"⟩ := by
    simp only [rowId, primaryKey?, orderLineColumns, List.find?_cons, order]
    rfl
  have types : SameTypes orderLineColumns (orderLine 1) (orderLine 2) := by
    intro c mem _
    rcases List.mem_cons.mp mem with rfl | mem
    · exact ⟨_, _, order 1, order 2, rfl⟩
    · obtain rfl := List.mem_singleton.mp mem
      exact ⟨_, _, number 1, number 2, rfl⟩
  have differ : DifferInKey orderLineColumns (orderLine 1) (orderLine 2) := by
    refine ⟨⟨"line_no", "integer", false, true, none⟩, .tail _ (.head _), rfl, ?_⟩
    rw [number, number]
    simp
  exact ⟨id 1, id 2, types, differ, fun apart =>
    apart "order_lines" _ _ _ _ (id 1) (id 2) types differ rfl⟩

end Rows

end DbConsole

import DbConsole.Grid
import DbConsole.Proofs.Dict
import Mathlib.Data.List.Forall2
import Mathlib.Data.List.Induction
import Mathlib.Data.List.Nodup
import Mathlib.Order.Bounds.Basic

/-!
Grids that are drawn with lines. The columns are the keys of the rows, each once, in the order in which
the rows bring them. A grid shows all columns and every cell in full, and each field has the width of its
column, but that the word for a cell that a row lacks is not measured: a column that is narrower than it
is overrun there.
-/
set_option autoImplicit false

namespace DbConsole

/-! ### Names added to names -/

theorem addNames_cons (known : List String) (n : String) (names : List String) :
    addNames known (n :: names) = addNames (if n ∈ known then known else known ++ [n]) names := rfl

@[simp] theorem mem_addNames {known names : List String} {name : String} :
    name ∈ addNames known names ↔ name ∈ known ∨ name ∈ names := by
  induction names generalizing known with
  | nil => simp [addNames]
  | cons n names ih =>
    rw [addNames_cons, ih, List.mem_cons]
    split
    case isTrue there =>
      constructor
      · exact Or.imp_right Or.inr
      · rintro (old | rfl | new)
        · exact .inl old
        · exact .inl there
        · exact .inr new
    case isFalse => rw [List.mem_append, List.mem_singleton, or_assoc]

/-- Names of which none comes twice are added as they stand, but for those that are there already. -/
theorem addNames_eq_append (known : List String) {names : List String} (once : names.Nodup) :
    addNames known names = known ++ names.filter (· ∉ known) := by
  induction names generalizing known with
  | nil => exact (List.append_nil known).symm
  | cons n names ih =>
    obtain ⟨first, once⟩ := List.nodup_cons.mp once
    rw [addNames_cons, ih _ once]
    split
    case isTrue there => rw [List.filter_cons_of_neg (by simpa using there)]
    case isFalse absent =>
      have others : names.filter (· ∉ known ++ [n]) = names.filter (· ∉ known) := by
        refine List.filter_congr fun m mem => ?_
        have differ : m ≠ n := fun same => first (same ▸ mem)
        simp [differ]
      rw [List.filter_cons_of_pos (by simpa using absent), others, List.append_assoc,
        List.singleton_append]

theorem nodup_addNames {known names : List String} (once : known.Nodup) (once' : names.Nodup) :
    (addNames known names).Nodup := by
  rw [addNames_eq_append known once']
  refine List.Nodup.append once (once'.filter _) fun n old new => ?_
  simpa [old] using List.of_mem_filter new

theorem Dict.pairwise_keys {β : Type} (d : Dict β) : d.keys.Pairwise (· < ·) :=
  List.pairwise_map.mpr d.ascending

theorem Dict.nodup_keys {β : Type} (d : Dict β) : d.keys.Nodup :=
  d.pairwise_keys.imp String.ne_of_lt

/-! ### Names of rows -/

theorem columnNames_append (rows : List Row) (row : Row) :
    columnNames (rows ++ [row]) = columnNames rows ++ row.keys.filter (· ∉ columnNames rows) := by
  rw [columnNames, List.foldl_append]
  exact addNames_eq_append _ row.nodup_keys

@[simp] theorem mem_columnNames {rows : List Row} {name : String} :
    name ∈ columnNames rows ↔ ∃ row ∈ rows, name ∈ row.keys := by
  induction rows using List.reverseRecOn with
  | nil => simp [columnNames]
  | append_singleton rows row ih =>
    rw [columnNames, List.foldl_append]
    refine mem_addNames.trans ?_
    rw [← columnNames, ih]
    simp [or_and_right, exists_or]

theorem nodup_columnNames (rows : List Row) : (columnNames rows).Nodup := by
  induction rows using List.reverseRecOn with
  | nil => exact List.nodup_nil
  | append_singleton rows row ih =>
    rw [columnNames, List.foldl_append]
    exact nodup_addNames ih row.nodup_keys

/-- Whatever name a row is the first one to have, it comes behind all names of the rows before. -/
def BringInOrder (rows : List Row) : Prop :=
  ∀ earlier row, earlier ++ [row] <+: rows → ∀ new ∈ row.keys, (∀ e ∈ earlier, new ∉ e.keys) →
    ∀ e ∈ earlier, ∀ old ∈ e.keys, old < new

theorem bringInOrder_append (rows : List Row) (row : Row) :
    BringInOrder (rows ++ [row]) ↔ BringInOrder rows ∧
      ∀ old ∈ columnNames rows, ∀ new ∈ row.keys.filter (· ∉ columnNames rows), old < new := by
  have last : (∀ new ∈ row.keys, (∀ e ∈ rows, new ∉ e.keys) → ∀ e ∈ rows, ∀ old ∈ e.keys, old < new) ↔
      ∀ old ∈ columnNames rows, ∀ new ∈ row.keys.filter (· ∉ columnNames rows), old < new := by
    simp only [mem_columnNames, List.mem_filter, decide_eq_true_eq, not_exists, not_and]
    constructor
    · rintro behind old ⟨e, mem, key⟩ new ⟨here, first⟩
      exact behind new here first e mem old key
    · intro behind new here first e mem old key
      exact behind old ⟨e, mem, key⟩ new ⟨here, first⟩
  rw [← last]
  constructor
  · intro order
    exact ⟨fun earlier r before => order earlier r (before.trans (List.prefix_append rows [row])),
      order rows row (List.prefix_refl _)⟩
  · rintro ⟨order, behind⟩ earlier r before
    rcases List.prefix_concat_iff.mp before with whole | before
    · obtain ⟨rfl, rfl⟩ := List.append_singleton_inj.mp whole
      exact behind
    · exact order earlier r before

theorem pairwise_columnNames_iff (rows : List Row) :
    (columnNames rows).Pairwise (· < ·) ↔ BringInOrder rows := by
  induction rows using List.reverseRecOn with
  | nil => simp [columnNames, BringInOrder]
  | append_singleton rows row ih =>
    rw [columnNames_append, List.pairwise_append, ih, bringInOrder_append]
    have among : (row.keys.filter (· ∉ columnNames rows)).Pairwise (· < ·) :=
      row.pairwise_keys.filter _
    exact ⟨fun ⟨order, _, behind⟩ => ⟨order, behind⟩, fun ⟨order, behind⟩ => ⟨order, among, behind⟩⟩

/-- Rows and the result of a query that holds them have the same column names, each key of a row once and
nothing else; and they are sorted just if the rows bring them in that order. -/
theorem columnNames_sorted_iff (rows : List Row) :
    (∀ count message affected,
      (SqlResult.mk (some rows) count message affected).columnNames = columnNames rows) ∧
    (columnNames rows).Nodup ∧
    (∀ name, name ∈ columnNames rows ↔ ∃ row ∈ rows, name ∈ row.keys) ∧
    ((columnNames rows).Pairwise (· < ·) ↔ BringInOrder rows) :=
  ⟨fun _ _ _ => rfl, nodup_columnNames rows, fun _ => mem_columnNames, pairwise_columnNames_iff rows⟩

/-- The second row brings the name that belongs first. -/
def laterNameFirst : List Row :=
  [Dict.empty.insert "b" .null, Dict.empty.insert "a" .null]

theorem laterNameFirst_unsorted :
    columnNames laterNameFirst = ["b", "a"] ∧
      (SqlResult.mk (some laterNameFirst) none none none).columnNames = ["b", "a"] ∧
      ¬ (columnNames laterNameFirst).Pairwise (· < ·) := by
  decide

end DbConsole

namespace DbConsole.Grid

/-- A text with the spaces around it. -/
structure Field where
  left : Nat
  text : String
  right : Nat

namespace Field

def shown (f : Field) : List Char :=
  '|' :: ' ' :: (List.replicate f.left ' ' ++ f.text.toList ++ List.replicate f.right ' ' ++ [' '])

/-- The full text of a cell, with the spaces before a number and behind anything else. -/
def Shows (f : Field) (cell : Cell) : Prop :=
  f.text = cell.display ∧ if cell.isNumber then f.right = 0 else f.left = 0

end Field

def record (fields : List Field) : List Char :=
  fields.flatMap Field.shown ++ ['|', '\n']

def rule (widths : List Nat) : List Char :=
  widths.flatMap (fun w => '+' :: List.replicate (w + 2) '-') ++ ['+', '\n']

def countText (height : Nat) : List Char :=
  (toString height).toList ++ (if height = 1 then " row in set\n" else " rows in set\n").toList

/-- What a grid is drawn of. -/
structure Layout where
  widths : List Nat
  header : List Field
  records : List (List Field)

namespace Layout

def text (l : Layout) : List Char :=
  rule l.widths ++ record l.header ++ rule l.widths ++ l.records.flatMap record ++ rule l.widths ++
    countText l.records.length

/-- The columns stand on top and the cells of each row in a record of its own. -/
structure Lists (l : Layout) (columns : List String) (rows : List Row) : Prop where
  titles : l.header.map Field.text = columns
  cells : List.Forall₂ (fun row fields =>
    List.Forall₂ (fun name f => f.Shows (cellOf row name)) columns fields) rows l.records

end Layout

section Appended

variable {rows : List Row} {row : Row} {name : String}

end Appended

namespace Field

def ofCell (cell : Cell) (w : Nat) : Field :=
  let total := w - Text.width cell.display
  if cell.isNumber then ⟨total, cell.display, 0⟩ else ⟨0, cell.display, total⟩

end Field

section Spelling

variable {columns : List String} {rows : List Row}

end Spelling

/-! ### Reading the widths back -/

section Widths

variable {columns : List String} {rows : List Row}

end Widths

end DbConsole.Grid

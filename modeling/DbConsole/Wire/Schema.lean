import DbConsole.Schema
import DbConsole.Wire.Basic

/-!
Messages about tables and their parts.
-/
set_option autoImplicit false

namespace DbConsole

open Json

instance : Wire Table where
  shape := .record "TableInfo"
    (.cons "name" .text .required
    (.cons "table_type" .text .required
    (.cons "row_count_estimate" .integer (.nullable true false) .nil)))
  toValue t := (t.name, t.kind, t.rowEstimate, ())
  ofValue
    | (name, kind, rowEstimate, ()) => ⟨name, kind, rowEstimate⟩

instance : Wire Column where
  shape := .record "ColumnInfo"
    (.cons "name" .text .required
    (.cons "data_type" .text .required
    (.cons "nullable" .bool .required
    (.cons "is_primary_key" .bool .required
    (.cons "default_value" .text (.nullable true false) .nil)))))
  toValue c := (c.name, c.dataType, c.nullable, c.isPrimaryKey, c.defaultValue, ())
  ofValue
    | (name, dataType, nullable, isPrimaryKey, defaultValue, ()) =>
      ⟨name, dataType, nullable, isPrimaryKey, defaultValue⟩

instance : Wire Index where
  shape := .record "IndexInfo"
    (.cons "name" .text .required
    (.cons "is_unique" .bool .required
    (.cons "is_primary" .bool .required
    (.cons "column_names" (.list .text) .required .nil))))
  toValue i := (i.name, i.isUnique, i.isPrimary, i.columns, ())
  ofValue
    | (name, isUnique, isPrimary, columns, ()) => ⟨name, isUnique, isPrimary, columns⟩

instance : Wire ForeignKey where
  shape := .record "ForeignKeyInfo"
    (.cons "constraint_name" .text .required
    (.cons "column_name" .text .required
    (.cons "foreign_table" .text .required
    (.cons "foreign_column" .text .required .nil))))
  toValue f := (f.constraint, f.column, f.foreignTable, f.foreignColumn, ())
  ofValue
    | (constraint, column, foreignTable, foreignColumn, ()) =>
      ⟨constraint, column, foreignTable, foreignColumn⟩

/-- A list in a record with one field. -/
structure Listed (α : Type) where
  items : List α
  deriving DecidableEq

/-- The record `name` whose field `key` holds the list. -/
abbrev Listed.wire (α : Type) [Wire α] (name key : String) : Wire (Listed α) where
  shape := .record name (.cons key (.list (Wire.shape α)) .required .nil)
  toValue l := (l.items.map Wire.toValue, ())
  ofValue
    | (items, ()) => ⟨items.map Wire.ofValue⟩

instance : Wire (Listed Table) := Listed.wire Table "TableList" "tables"

instance : Wire (Listed Column) := Listed.wire Column "ColumnList" "columns"

instance : Wire (Listed Index) := Listed.wire Index "IndexList" "indexes"

instance : Wire (Listed ForeignKey) := Listed.wire ForeignKey "ForeignKeyList" "foreign_keys"

instance : Wire ColumnSpec where
  shape := .record "ColumnDefinition"
    (.cons "name" .text .required
    (.cons "data_type" .text .required
    (.cons "nullable" .bool .defaulted
    (.cons "is_primary_key" .bool .defaulted
    (.cons "default_value" .text (.nullable true true) .nil)))))
  toValue c := (c.name, c.dataType, some c.nullable, some c.isPrimaryKey, c.defaultValue, ())
  ofValue
    | (name, dataType, nullable, isPrimaryKey, defaultValue, ()) =>
      ⟨name, dataType, nullable.getD true, isPrimaryKey.getD false, defaultValue⟩

instance : Wire TableSpec where
  shape := .record "CreateTableRequest"
    (.cons "name" .text .required
    (.cons "columns" (.list (Wire.shape ColumnSpec)) .required .nil))
  toValue t := (t.name, t.columns.map Wire.toValue, ())
  ofValue
    | (name, columns, ()) => ⟨name, columns.map Wire.ofValue⟩

instance : Wire Alteration where
  shape := .tagged "AlterTableRequest" "alter_type"
    (.cons "RenameTable" (.cons "new_name" .text .required .nil)
    (.cons "AddColumn" (.cons "column_definition" (Wire.shape ColumnSpec) .required .nil)
    (.cons "DropColumn" (.cons "column_name" .text .required .nil)
    (.cons "ModifyColumn" (.cons "old_column_name" .text .required
      (.cons "column_definition" (Wire.shape ColumnSpec) .required .nil))
    (.cons "RenameColumn" (.cons "old_column_name" .text .required
      (.cons "column_name" .text .required .nil)) .nil)))))
  toValue
    | .renameTable newName => .inl (newName, ())
    | .addColumn column => .inr (.inl (Wire.toValue column, ()))
    | .dropColumn name => .inr (.inr (.inl (name, ())))
    | .modifyColumn oldName column => .inr (.inr (.inr (.inl (oldName, Wire.toValue column, ()))))
    | .renameColumn oldName newName => .inr (.inr (.inr (.inr (.inl (oldName, newName, ())))))
  ofValue
    | .inl (newName, ()) => .renameTable newName
    | .inr (.inl (column, ())) => .addColumn (Wire.ofValue column)
    | .inr (.inr (.inl (name, ()))) => .dropColumn name
    | .inr (.inr (.inr (.inl (oldName, column, ())))) => .modifyColumn oldName (Wire.ofValue column)
    | .inr (.inr (.inr (.inr (.inl (oldName, newName, ()))))) => .renameColumn oldName newName

instance : Wire TableNotice where
  shape := .record "TableChange"
    (.cons "message" .text .required (.cons "table" .text .required .nil))
  toValue n := (n.message, n.table, ())
  ofValue
    | (message, table, ()) => ⟨message, table⟩

end DbConsole

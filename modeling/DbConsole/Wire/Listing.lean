import DbConsole.Listing
import DbConsole.Row.Key
import DbConsole.Wire.Basic

/-!
Messages about rows and ad-hoc SQL.
-/
set_option autoImplicit false

namespace DbConsole

open Json

instance : Wire Cell := ⟨.any, Cell.toJson, Cell.ofJson⟩

instance : Wire Row := ⟨.dictionary .any, Dict.map Cell.toJson, Dict.map Cell.ofJson⟩

instance : Wire RowId := ⟨.text, RowId.text, RowId.mk⟩

instance : Wire SortOrder where
  shape := .choice ["asc", "desc"]
  toValue
    | .asc => (0 : Fin 2)
    | .desc => (1 : Fin 2)
  ofValue (i : Fin 2) :=
    match i with
    | 0 => .asc
    | 1 => .desc

instance : Wire PageQuery where
  shape := .record "RowsQuery"
    (.cons "page" (.natural 32) (.nullable false true)
    (.cons "limit" (.natural 32) (.nullable false true)
    (.cons "sort" .text (.nullable false true)
    (.cons "order" (Wire.shape SortOrder) (.nullable false true) .nil))))
  toValue q := (q.page.map UInt32.toFin, q.limit.map UInt32.toFin, q.sort,
    q.order.map Wire.toValue, ())
  ofValue
    | (page, limit, sort, order, ()) =>
      ⟨page.map UInt32.ofFin, limit.map UInt32.ofFin, sort, order.map Wire.ofValue⟩

instance : Wire Page where
  shape := .record "PaginatedRows"
    (.cons "rows" (.list (Wire.shape Row)) .required
    (.cons "page" (.natural 32) .required
    (.cons "limit" (.natural 32) .required .nil)))
  toValue p := (p.rows.map Wire.toValue, p.page.toFin, p.limit.toFin, ())
  ofValue
    | (rows, page, limit, ()) => ⟨rows.map Wire.ofValue, .ofFin page, .ofFin limit⟩

instance : Wire Receipt where
  shape := .record "MutationResult"
    (.cons "message" .text .required (.cons "rows_affected" (.natural 64) .required .nil))
  toValue r := (r.message, r.rowsAffected.toFin, ())
  ofValue
    | (message, rowsAffected, ()) => ⟨message, .ofFin rowsAffected⟩

instance : Wire SqlRequest where
  shape := .record "QueryRequest" (.cons "sql" .text .required .nil)
  toValue r := (r.sql, ())
  ofValue
    | (sql, ()) => ⟨sql⟩

instance : Wire SqlResult where
  shape := .record "QueryResult"
    (.cons "rows" (.list (Wire.shape Row)) (.nullable true true)
    (.cons "row_count" (.natural 64) (.nullable true true)
    (.cons "message" .text (.nullable true true)
    (.cons "rows_affected" (.natural 64) (.nullable true true) .nil))))
  toValue r := (r.rows.map (·.map Wire.toValue), r.rowCount.map UInt64.toFin, r.message,
    r.rowsAffected.map UInt64.toFin, ())
  ofValue
    | (rows, rowCount, message, rowsAffected, ()) =>
      ⟨rows.map (·.map Wire.ofValue), rowCount.map UInt64.ofFin, message,
        rowsAffected.map UInt64.ofFin⟩

end DbConsole

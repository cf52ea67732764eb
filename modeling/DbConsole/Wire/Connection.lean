import DbConsole.Connection
import DbConsole.Wire.Basic

/-!
Messages about the connection to a database.
-/
set_option autoImplicit false

namespace DbConsole

open Json

instance : Wire Engine where
  shape := .choice ["postgres", "mysql", "sqlite"]
  toValue
    | .postgres => (0 : Fin 3)
    | .mysql => (1 : Fin 3)
    | .sqlite => (2 : Fin 3)
  ofValue (i : Fin 3) :=
    match i with
    | 0 => .postgres
    | 1 => .mysql
    | 2 => .sqlite

instance : Wire Credentials where
  shape := .record "ConnectRequest"
    (.cons "host" .text .defaulted
    (.cons "port" (.natural 16) .defaulted
    (.cons "database" .text .required
    (.cons "username" .text .defaulted
    (.cons "password" .text .defaulted
    (.cons "db_type" (Wire.shape Engine) .required .nil))))))
  toValue c := (some c.host, some c.port.toFin, c.database, some c.username, some c.password,
    Wire.toValue c.engine, ())
  ofValue
    | (host, port, database, username, password, engine, ()) =>
      ⟨host.getD "", (port.map UInt16.ofFin).getD 0, database, username.getD "", password.getD "",
        Wire.ofValue engine⟩

instance : Wire Grant where
  shape := .record "ConnectResponse"
    (.cons "token" .text .required
    (.cons "database" .text .required
    (.cons "db_type" (Wire.shape Engine) .required .nil)))
  toValue g := (g.token, g.database, Wire.toValue g.engine, ())
  ofValue
    | (token, database, engine, ()) => ⟨token, database, Wire.ofValue engine⟩

instance : Wire StatusReport where
  shape := .record "StatusResponse"
    (.cons "connected" .bool .required
    (.cons "database" .text (.nullable true false)
    (.cons "db_type" (Wire.shape Engine) (.nullable true false) .nil)))
  toValue r := (r.connected, r.database, r.engine.map Wire.toValue, ())
  ofValue
    | (connected, database, engine, ()) => ⟨connected, database, engine.map Wire.ofValue⟩

instance : Wire DatabaseSummary where
  shape := .record "DatabaseInfo"
    (.cons "database" .text .required
    (.cons "db_type" .text .required
    (.cons "version" .text .required
    (.cons "table_count" .integer .required .nil))))
  toValue d := (d.database, d.engine, d.version, d.tableCount, ())
  ofValue
    | (database, engine, version, tableCount, ()) => ⟨database, engine, version, tableCount⟩

end DbConsole

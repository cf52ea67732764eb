/-!
How much of a database ad-hoc SQL can touch.
-/
set_option autoImplicit false

namespace DbConsole.Sql

/-- What cached reads a batch of statements can make wrong. -/
inductive Scope where
  | readOnly
  /-- Rows of any table. -/
  | data
  /-- Anything. -/
  | schema
  deriving DecidableEq, Repr

def Scope.rank : Scope → Nat
  | .readOnly => 0
  | .data => 1
  | .schema => 2

/-- The wider of two scopes. -/
def Scope.join (a b : Scope) : Scope :=
  if a.rank < b.rank then b else a

end DbConsole.Sql

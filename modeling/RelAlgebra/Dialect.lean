import RelAlgebra.Error

/-!
The SQL dialects. They differ in two points only: whether a view may declare the names of its
columns, and whether there are set operators for difference and intersection.
-/

namespace RelAlgebra

inductive Dialect where
  | postgresql
  | sqlite
  | mysql
  | db2
  deriving DecidableEq, Repr

namespace Dialect

def name : Dialect → String
  | postgresql => "postgresql"
  | sqlite => "sqlite"
  | mysql => "mysql"
  | db2 => "db2"

/-- `CREATE VIEW v(a, b) AS ...` is understood. -/
def hasViewColumns : Dialect → Bool
  | sqlite => false
  | _ => true

/-- `EXCEPT` and `INTERSECT` are understood. -/
def hasSetOperators : Dialect → Bool
  | mysql => false
  | _ => true

/-- The dialect of a name in lower case. -/
def ofName? : String → Option Dialect
  | "postgresql" | "postgres" => some postgresql
  | "sqlite" => some sqlite
  | "mysql" => some mysql
  | "db2" => some db2
  | _ => none

/-- The dialect a text names. The case of its letters does not matter. -/
def parse (text : String) : Except Error Dialect :=
  let name := text.map Char.toLower
  match ofName? name with
  | some d => .ok d
  | none => .error (.invalidArgument (.unknownDialect name))

end Dialect

end RelAlgebra

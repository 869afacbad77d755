import RelAlgebra.Expr

/-!
Statements: commands to the interpreter, and expressions to evaluate.
-/

namespace RelAlgebra

inductive Command where
  | help
  | quit
  | list
  /-- SQL handed to the database as it is. -/
  | sqlExec (sql : String)
  deriving DecidableEq, Repr

inductive Statement where
  | command (c : Command)
  | expr (e : Expr)
  deriving DecidableEq, Repr

end RelAlgebra

/-!
Relational algebra expressions. An operator keeps the text of its parameter as it was written.
-/

namespace RelAlgebra

/-- Operators on one relation. -/
inductive UnaryOp where
  | select (condition : String)
  | project (columns : String)
  | rename (columns : String)
  deriving DecidableEq, Repr

/-- Operators on two relations. A join without a condition is a natural join. -/
inductive BinaryOp where
  | join (condition : Option String)
  | cross
  | union
  | diff
  | intersect
  deriving DecidableEq, Repr

inductive Expr where
  | relation (name : String)
  | unary (op : UnaryOp) (operand : Expr)
  | binary (op : BinaryOp) (left right : Expr)
  deriving DecidableEq, Repr

/-- An operator word with a parameter: `\word_{text}`. -/
def withParameter (word text : String) : String := "\\" ++ word ++ "_\x7b" ++ text ++ "\x7d"

/-- The operator as it is written. -/
def UnaryOp.label : UnaryOp → String
  | .select condition => withParameter "select" condition
  | .project columns => withParameter "project" columns
  | .rename columns => withParameter "rename" columns

@[inherit_doc UnaryOp.label]
def BinaryOp.label : BinaryOp → String
  | .join none => "\\join"
  | .join (some condition) => withParameter "join" condition
  | .cross => "\\cross"
  | .union => "\\union"
  | .diff => "\\diff"
  | .intersect => "\\intersect"

namespace Expr

/-- The number of nodes. -/
def size : Expr → Nat
  | relation _ => 1
  | unary _ e => e.size + 1
  | binary _ l r => l.size + r.size + 1

/-- The operator at the root as it is written, or the name of a relation. -/
def label : Expr → String
  | relation name => name
  | unary op _ => op.label
  | binary op _ _ => op.label

end Expr

end RelAlgebra

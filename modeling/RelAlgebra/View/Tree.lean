import RelAlgebra.Expr
import RelAlgebra.Schema
import RelAlgebra.View.Name

/-!
An expression with a temporary view for each of its nodes.
-/

namespace RelAlgebra

/-- What is known of the view of a node. -/
inductive Status where
  /-- There is no view. -/
  | unchecked
  /-- The view is there and its columns are known. -/
  | correct
  /-- The view could not be made. -/
  | error
  deriving DecidableEq, Repr

def Status.title : Status → String
  | unchecked => "Unchecked"
  | correct => "Correct"
  | error => "Error"

structure View where
  name : String
  status : Status := .unchecked
  schema : Option Schema := none
  deriving DecidableEq, Repr

/-- The view as it was before it was made. -/
def View.reset (v : View) : View := ⟨v.name, .unchecked, none⟩

inductive ViewTree where
  | relation (name : String) (view : View)
  | unary (op : UnaryOp) (operand : ViewTree) (view : View)
  | binary (op : BinaryOp) (left right : ViewTree) (view : View)
  deriving DecidableEq, Repr

namespace ViewTree

/-- A tree for an expression. The names are given out from the operands to the operators, the
left operand first. -/
def ofExpr : Expr → View.NameSupply → ViewTree × View.NameSupply
  | .relation name, names =>
    let (v, names) := names.next
    (relation name { name := v }, names)
  | .unary op e, names =>
    let (t, names) := ofExpr e names
    let (v, names) := names.next
    (unary op t { name := v }, names)
  | .binary op l r, names =>
    let (l, names) := ofExpr l names
    let (r, names) := ofExpr r names
    let (v, names) := names.next
    (binary op l r { name := v }, names)

def view : ViewTree → View
  | relation _ v => v
  | unary _ _ v => v
  | binary _ _ _ v => v

def withView : ViewTree → View → ViewTree
  | relation name _, v => relation name v
  | unary op t _, v => unary op t v
  | binary op l r _, v => binary op l r v

/-- The expression without its views. -/
def expr : ViewTree → Expr
  | relation name _ => .relation name
  | unary op t _ => .unary op t.expr
  | binary op l r _ => .binary op l.expr r.expr

/-- The operator at the root as it is written, or the name of a relation. -/
def label : ViewTree → String
  | relation name _ => name
  | unary op _ _ => op.label
  | binary op _ _ _ => op.label

/-- The operands of the root, the left one first. -/
def operands : ViewTree → List ViewTree
  | relation _ _ => []
  | unary _ t _ => [t]
  | binary _ l r _ => [l, r]

/-- All nodes, each before its operands. -/
def nodes : ViewTree → List ViewTree
  | relation name v => [relation name v]
  | unary op t v => unary op t v :: t.nodes
  | binary op l r v => binary op l r v :: (l.nodes ++ r.nodes)

/-- The views of all nodes, each before those of the operands. -/
def views : ViewTree → List View
  | relation _ v => [v]
  | unary _ t v => v :: t.views
  | binary _ l r v => v :: (l.views ++ r.views)

/-- The node whose view has a name. -/
def find? (t : ViewTree) (name : String) : Option ViewTree :=
  t.nodes.find? fun node => node.view.name == name

/-- The tree with all its views as they were before they were made. -/
def reset : ViewTree → ViewTree
  | relation name v => relation name v.reset
  | unary op t v => unary op t.reset v.reset
  | binary op l r v => binary op l.reset r.reset v.reset

/-- What is told of a view beside its node. -/
def remark (v : View) : String :=
  match v.status, v.schema with
  | .correct, some schema => " <- output schema: " ++ schema.text
  | .error, _ => " <- ERROR!"
  | _, _ => ""

/-- The line of the root, indented. -/
def line (verbose : Bool) (indent : Nat) (t : ViewTree) : String :=
  String.ofList (List.replicate indent ' ') ++ t.label ++ (if verbose then remark t.view else "") ++
    "\n"

/-- A line for each node; operands stand below their operator, indented by four. -/
def renderAt (verbose : Bool) (indent : Nat) : ViewTree → String
  | relation name v => line verbose indent (relation name v)
  | unary op t v => line verbose indent (unary op t v) ++ t.renderAt verbose (indent + 4)
  | binary op l r v =>
    line verbose indent (binary op l r v) ++ l.renderAt verbose (indent + 4) ++
      r.renderAt verbose (indent + 4)

/-- The tree as text; a verbose text tells of the views too. -/
def render (verbose : Bool) (t : ViewTree) : String := t.renderAt verbose 0

end ViewTree

end RelAlgebra

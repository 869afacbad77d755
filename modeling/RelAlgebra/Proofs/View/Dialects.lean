import RelAlgebra.Proofs.View.Generators

/-!
What the statements of a tree ask of a dialect.

Whether a view may declare its columns is asked for a renaming only, and whether there are set
operators for a difference or an intersection only. Two dialects that agree on what the operators of
an expression ask give the same statements for all of its nodes.
-/

namespace RelAlgebra

def UnaryOp.isRename : UnaryOp → Bool
  | rename _ => true
  | _ => false

def BinaryOp.isSetOp : BinaryOp → Bool
  | diff | intersect => true
  | _ => false

namespace Expr

def hasRename : Expr → Bool
  | relation _ => false
  | unary op e => op.isRename || e.hasRename
  | binary _ l r => l.hasRename || r.hasRename

def hasSetOp : Expr → Bool
  | relation _ => false
  | unary _ e => e.hasSetOp
  | binary op l r => op.isSetOp || l.hasSetOp || r.hasSetOp

end Expr

/-- The dialects agree on all that an expression asks of them. -/
structure Dialect.AgreeOn (d d' : Dialect) (e : Expr) : Prop where
  viewColumns : e.hasRename = true → d.hasViewColumns = d'.hasViewColumns
  setOperators : e.hasSetOp = true → d.hasSetOperators = d'.hasSetOperators

namespace Dialect.AgreeOn

variable {d d' : Dialect} {l r e : Expr}

lemma refl (d : Dialect) (e : Expr) : AgreeOn d d e := ⟨fun _ => rfl, fun _ => rfl⟩

lemma symm (h : AgreeOn d d' e) : AgreeOn d' d e :=
  ⟨fun he => (h.viewColumns he).symm, fun he => (h.setOperators he).symm⟩

lemma operand {op : UnaryOp} (h : AgreeOn d d' (.unary op e)) : AgreeOn d d' e :=
  ⟨fun he => h.viewColumns (by simp [Expr.hasRename, he]), h.setOperators⟩

lemma left {op : BinaryOp} (h : AgreeOn d d' (.binary op l r)) : AgreeOn d d' l :=
  ⟨fun hl => h.viewColumns (by simp [Expr.hasRename, hl]),
    fun hl => h.setOperators (by simp [Expr.hasSetOp, hl])⟩

lemma right {op : BinaryOp} (h : AgreeOn d d' (.binary op l r)) : AgreeOn d d' r :=
  ⟨fun hr => h.viewColumns (by simp [Expr.hasRename, hr]),
    fun hr => h.setOperators (by simp [Expr.hasSetOp, hr])⟩

end Dialect.AgreeOn

namespace ViewTree

variable {d d' : Dialect}

lemma createStatement_unary_of_agree {op : UnaryOp} {e : Expr} (h : d.AgreeOn d' (.unary op e))
    (t : ViewTree) (v : View) :
    (unary op t v).createStatement d = (unary op t v).createStatement d' := by
  cases op with
  | select condition => rfl
  | project columns => rfl
  | rename columns =>
    have hcolumns := h.viewColumns rfl
    simp only [createStatement, createView_eq, query_eq, renamed, declaredColumns, hcolumns]

lemma createStatement_binary_of_agree {op : BinaryOp} {e₁ e₂ : Expr}
    (h : d.AgreeOn d' (.binary op e₁ e₂)) (l r : ViewTree) (v : View) :
    (binary op l r v).createStatement d = (binary op l r v).createStatement d' := by
  rcases op with (_ | condition) | _ | _ | _ | _
  case diff | intersect =>
    have hoperators := h.setOperators rfl
    simp only [createStatement, createView_eq, query_eq, setOperation, declaredColumns, hoperators]
  all_goals rfl

end ViewTree

end RelAlgebra

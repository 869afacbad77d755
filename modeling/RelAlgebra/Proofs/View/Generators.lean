import Mathlib
import RelAlgebra.View.Definition

/-!
The generators and the nodes they are called on.

A node is handed to the generator of its operator, which looks at the node again. It turns away the
nodes of all other operators and no node of its own, so that what a node can be refused for is a
reason of its own or an operand whose columns are not known.
-/

namespace RelAlgebra

lemma Except.bind_eq_error_iff {ε α β : Type} {x : Except ε α} {f : α → Except ε β} {e : ε} :
    x.bind f = .error e ↔ x = .error e ∨ ∃ a, x = .ok a ∧ f a = .error e := by
  cases x <;> simp [Except.bind]

namespace ViewTree

open Sql

variable {d : Dialect} {t l r : ViewTree} {o : Operator} {e : Error}

/-! ### Dispatch -/

lemma query_eq (d : Dialect) (t : ViewTree) :
    t.query d = match t with
      | relation name _ => .ok (.distinct name)
      | unary (.select condition) o _ => .ok (.filter o.view.name condition)
      | unary (.project columns) o _ => .ok (.project o.view.name columns)
      | unary (.rename columns) o _ => t.renamed d columns o
      | binary (.join (some condition)) l r _ =>
        .ok (.thetaJoin l.view.name r.view.name condition)
      | binary (.join none) l r _ => do
        let left ← l.knownSchema
        let right ← r.knownSchema
        .ok (naturalJoin l.view.name r.view.name left.columnNames right.columnNames)
      | binary .cross l r _ => .ok (.product l.view.name r.view.name)
      | binary .union l r _ => .ok (.union l.view.name r.view.name)
      | binary .diff l r _ => setOperation d .except t l r
      | binary .intersect l r _ => setOperation d .intersect t l r := by
  rcases t with _ | ⟨_ | _ | _, _, _⟩ | ⟨(_ | _) | _ | _ | _ | _, _, _, _⟩ <;> rfl

/-- The columns that the view declares. Only a renamed view does, where the dialect lets it. -/
def declaredColumns (d : Dialect) : ViewTree → Option String
  | unary (.rename columns) _ _ => if d.hasViewColumns then some columns else none
  | _ => none

lemma createView_eq (d : Dialect) (t : ViewTree) :
    t.createView d = (t.query d).map fun query => ⟨t.view.name, t.declaredColumns d, query⟩ := by
  rcases t with _ | ⟨_ | _ | _, _, _⟩ | ⟨_ | _ | _ | _ | _, _, _, _⟩ <;> rfl

lemma createStatement_eq_error_iff : t.createStatement d = .error e ↔ t.query d = .error e := by
  rw [createStatement, createView_eq]
  cases t.query d <;> simp [Except.map]

/-! ### What a node can be refused for -/

lemma knownSchema_error (h : t.knownSchema = .error e) :
    e = .internal (.schemaNotValidated t.view.name) := by
  unfold knownSchema at h
  split at h
  · cases h
  · cases h
    rfl

lemma setOperation_error {op : SetOp} (h : setOperation d op t l r = .error e) :
    (∃ reason, e = t.refuse reason none) ∨ l.knownSchema = .error e ∨ r.knownSchema = .error e := by
  unfold setOperation at h
  split at h
  · cases h
  · rcases Except.bind_eq_error_iff.mp h with hl | ⟨left, -, h⟩
    · exact .inr (.inl hl)
    · rcases Except.bind_eq_error_iff.mp h with hr | ⟨right, -, h⟩
      · exact .inr (.inr hr)
      · split at h
        · cases h
        · cases h
          exact .inl ⟨_, rfl⟩

lemma renamed_error {columns : String} (h : t.renamed d columns l = .error e) :
    (∃ reason, e = t.refuse reason none) ∨ l.knownSchema = .error e := by
  unfold renamed at h
  split at h
  · cases h
  · rcases Except.bind_eq_error_iff.mp h with hl | ⟨schema, -, h⟩
    · exact .inr hl
    · dsimp only at h
      split at h
      · cases h
      · cases h
        exact .inl ⟨_, rfl⟩

lemma query_error (h : t.query d = .error e) :
    (∃ reason, e = t.refuse reason none) ∨ ∃ o ∈ t.operands, o.knownSchema = .error e := by
  have hset {op : BinaryOp} {l r : ViewTree} {v : View} {setOp : SetOp}
      (h : setOperation d setOp (binary op l r v) l r = .error e) :
      (∃ reason, e = (binary op l r v).refuse reason none) ∨
        ∃ o ∈ (binary op l r v).operands, o.knownSchema = .error e := by
    refine (setOperation_error h).imp_right fun h => ?_
    simpa [operands] using h
  rw [query_eq] at h
  split at h
  case h_4 columns o v =>
    refine (renamed_error h).imp_right fun ho => ?_
    simpa [operands] using ho
  case h_6 l r v =>
    rcases Except.bind_eq_error_iff.mp h with hl | ⟨left, -, h⟩
    · exact .inr ⟨l, by simp [operands], hl⟩
    · rcases Except.bind_eq_error_iff.mp h with hr | ⟨right, -, h⟩
      · exact .inr ⟨r, by simp [operands], hr⟩
      · cases h
  case h_9 => exact hset h
  case h_10 => exact hset h
  all_goals cases h

/-! ### What the generators turn away -/

lemma query_ne_wrongOperator (d : Dialect) (t : ViewTree) (generator title : String) :
    t.query d ≠ .error (.internal (.wrongOperator generator title)) := by
  intro h
  rcases query_error h with ⟨reason, hreason⟩ | ⟨operand, -, hoperand⟩
  · cases hreason
  · cases knownSchema_error hoperand

lemma generate_eq_misused_iff : t.generate o d = .error o.misused ↔ t.operator ≠ o := by
  constructor
  · rintro h rfl
    exact query_ne_wrongOperator d t _ _ h
  · intro h
    rcases t with _ | ⟨_ | _ | _, _, _⟩ | ⟨(_ | _) | _ | _ | _ | _, _, _, _⟩ <;>
      cases o <;> first | rfl | exact absurd rfl h

lemma renameView_eq_misused_iff :
    t.renameView d = .error misusedRenaming ↔ t.operator ≠ .rename := by
  constructor
  · intro h hrename
    have hview : t.createView d = t.renameView d := by rw [createView, hrename]
    have herror : t.query d = .error misusedRenaming := by
      rw [← createStatement_eq_error_iff, createStatement, hview, h]
      rfl
    exact query_ne_wrongOperator d t _ _ herror
  · intro h
    rcases t with _ | ⟨_ | _ | _, _, _⟩ | _ <;> first | rfl | exact absurd rfl h

end ViewTree

end RelAlgebra

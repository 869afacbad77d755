import Mathlib
import RelAlgebra.View.Tree

/-!
The numbers of the views of a tree.

Views are numbered in the order in which they are made: those of the operands, the left one
first, before that of their operator. So the names of a new tree, listed in that order, are
consecutive, and no two of them agree.
-/

namespace RelAlgebra

namespace View

lemma toList_nameOf (n : ℕ) :
    (nameOf n).toList = "RA_TMP_VIEW_".toList ++ Nat.toDigits 10 n := by
  simp only [nameOf, String.toList_append, Nat.toString_eq_repr, Nat.toList_repr]

lemma nameOf_injective : Function.Injective nameOf := by
  intro m n h
  exact Nat.repr_injective ((String.append_right_inj _).mp h)

/-- The names of `n` views that are numbered after `a`. -/
def namesAfter (a n : ℕ) : List String := (List.range' (a + 1) n).map nameOf

@[simp] lemma length_namesAfter (a n : ℕ) : (namesAfter a n).length = n := by
  simp [namesAfter]

lemma namesAfter_add (a m n : ℕ) :
    namesAfter a (m + n) = namesAfter a m ++ namesAfter (a + m) n := by
  unfold namesAfter
  rw [← List.range'_append_1, List.map_append, Nat.add_right_comm]

lemma namesAfter_succ (a n : ℕ) :
    namesAfter a (n + 1) = namesAfter a n ++ [nameOf (a + n + 1)] := by
  rw [namesAfter_add]; rfl

lemma nodup_namesAfter (a n : ℕ) : (namesAfter a n).Nodup :=
  List.Nodup.map nameOf_injective (List.nodup_range' 1)

lemma nameOf_mem_namesAfter {a n k : ℕ} : nameOf k ∈ namesAfter a n ↔ a < k ∧ k ≤ a + n := by
  rw [namesAfter, List.mem_map_of_injective nameOf_injective, List.mem_range'_1]
  omega

lemma mem_namesAfter {a n : ℕ} {name : String} :
    name ∈ namesAfter a n ↔ ∃ k, a < k ∧ k ≤ a + n ∧ name = nameOf k := by
  constructor
  · intro h
    obtain ⟨k, hk, rfl⟩ := List.mem_map.mp h
    rw [List.mem_range'_1] at hk
    exact ⟨k, by omega, by omega, rfl⟩
  · rintro ⟨k, h1, h2, rfl⟩
    exact nameOf_mem_namesAfter.mpr ⟨h1, h2⟩

end View

namespace ViewTree

/-- The views of all nodes, each after those of the operands. -/
def postorder : ViewTree → List View
  | relation _ v => [v]
  | unary _ t v => t.postorder ++ [v]
  | binary _ l r v => l.postorder ++ r.postorder ++ [v]

/-- All nodes, each after its operands. -/
def subtrees : ViewTree → List ViewTree
  | relation name v => [relation name v]
  | unary op t v => t.subtrees ++ [unary op t v]
  | binary op l r v => l.subtrees ++ r.subtrees ++ [binary op l r v]

lemma map_view_subtrees (t : ViewTree) : t.subtrees.map view = t.postorder := by
  induction t with
  | relation name v => rfl
  | unary op t v ih => simp [subtrees, postorder, view, ih]
  | binary op l r v ihl ihr => simp [subtrees, postorder, view, ihl, ihr]

def viewNames (t : ViewTree) : List String := t.postorder.map View.name

lemma views_perm_postorder (t : ViewTree) : t.views.Perm t.postorder := by
  induction t with
  | relation name v => exact .refl _
  | unary op t v ih => exact (ih.cons v).trans (List.perm_append_singleton v _).symm
  | binary op l r v ihl ihr =>
    exact ((ihl.append ihr).cons v).trans (List.perm_append_singleton v _).symm

lemma expr_ofExpr (e : Expr) (s : View.NameSupply) : (ofExpr e s).1.expr = e := by
  induction e generalizing s with
  | relation name => rfl
  | unary op e ih => simp only [ofExpr, expr, ih]
  | binary op l r ihl ihr => simp only [ofExpr, expr, ihl, ihr]

lemma issued_ofExpr (e : Expr) (s : View.NameSupply) :
    (ofExpr e s).2.issued = s.issued + e.size := by
  induction e generalizing s with
  | relation name => rfl
  | unary op e ih =>
    simp only [ofExpr, View.NameSupply.next, Expr.size, ih]
    omega
  | binary op l r ihl ihr =>
    simp only [ofExpr, View.NameSupply.next, Expr.size, ihl, ihr]
    omega

lemma viewNames_ofExpr (e : Expr) (s : View.NameSupply) :
    (ofExpr e s).1.viewNames = View.namesAfter s.issued e.size := by
  induction e generalizing s with
  | relation name => rfl
  | unary op e ih =>
    have h := ih s
    simp only [viewNames] at h
    simp only [viewNames, ofExpr, View.NameSupply.next, postorder, List.map_append, h,
      issued_ofExpr, Expr.size, View.namesAfter_succ]
    rfl
  | binary op l r ihl ihr =>
    have hl := ihl s
    have hr := ihr (ofExpr l s).2
    simp only [viewNames, issued_ofExpr] at hl hr
    simp only [viewNames, ofExpr, View.NameSupply.next, postorder, List.map_append, hl, hr,
      issued_ofExpr]
    rw [Expr.size, View.namesAfter_succ, View.namesAfter_add, ← Nat.add_assoc]
    rfl

lemma unchecked_ofExpr (e : Expr) (s : View.NameSupply) :
    ∀ v ∈ (ofExpr e s).1.postorder, v.status = .unchecked ∧ v.schema = none := by
  induction e generalizing s with
  | relation name => simp [ofExpr, postorder]
  | unary op e ih =>
    intro v hv
    simp only [ofExpr, postorder, List.mem_append, List.mem_singleton] at hv
    rcases hv with hv | rfl
    · exact ih s v hv
    · exact ⟨rfl, rfl⟩
  | binary op l r ihl ihr =>
    intro v hv
    simp only [ofExpr, postorder, List.mem_append, List.mem_singleton] at hv
    rcases hv with (hv | hv) | rfl
    · exact ihl s v hv
    · exact ihr _ v hv
    · exact ⟨rfl, rfl⟩

lemma reset_ofExpr (e : Expr) (s : View.NameSupply) : (ofExpr e s).1.reset = (ofExpr e s).1 := by
  induction e generalizing s with
  | relation name => rfl
  | unary op e ih =>
    simp only [ofExpr, reset, ih]
    rfl
  | binary op l r ihl ihr =>
    simp only [ofExpr, reset, ihl, ihr]
    rfl

end ViewTree

end RelAlgebra

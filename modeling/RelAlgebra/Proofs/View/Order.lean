import RelAlgebra.Proofs.View.Numbering

/-!
Operators and their operands in the orders of a tree.

The views of a tree are made in the order of their numbers, and those of the operands have smaller
numbers than that of their operator. They are dropped in the order of `views`, where operands come
after their operator; so where a first part of that list has been dropped, an operator is gone when
one of its operands is.
-/

namespace RelAlgebra.ViewTree

lemma view_mem_views (t : ViewTree) : t.view ∈ t.views := by
  cases t <;> simp [view, views]

lemma map_view_nodes (t : ViewTree) : t.nodes.map view = t.views := by
  induction t with
  | relation name v => rfl
  | unary op t v ih => simp [nodes, views, view, ih]
  | binary op l r v ihl ihr => simp [nodes, views, view, ihl, ihr]

lemma view_reset (t : ViewTree) : t.reset.view = t.view.reset := by
  cases t <;> rfl

lemma reset_reset (t : ViewTree) : t.reset.reset = t.reset := by
  induction t with
  | relation name v => rfl
  | unary op t v ih => simp [reset, View.reset, ih]
  | binary op l r v ihl ihr => simp [reset, View.reset, ihl, ihr]

lemma expr_reset (t : ViewTree) : t.reset.expr = t.expr := by
  induction t with
  | relation name v => rfl
  | unary op t v ih => simp only [reset, expr, ih]
  | binary op l r v ihl ihr => simp only [reset, expr, ihl, ihr]

lemma postorder_reset (t : ViewTree) : t.reset.postorder = t.postorder.map View.reset := by
  induction t with
  | relation name v => rfl
  | unary op t v ih => simp [reset, postorder, ih]
  | binary op l r v ihl ihr => simp [reset, postorder, ihl, ihr]

lemma viewNames_reset (t : ViewTree) : t.reset.viewNames = t.viewNames := by
  rw [viewNames, viewNames, postorder_reset, List.map_map]
  rfl

lemma names_reset (t : ViewTree) : t.reset.views.map View.name = t.views.map View.name := by
  induction t with
  | relation name v => rfl
  | unary op t v ih => simp [reset, views, View.reset, ih]
  | binary op l r v ihl ihr => simp [reset, views, View.reset, ihl, ihr]

lemma exists_views_split {t n o : ViewTree} (hn : n ∈ t.nodes) (ho : o ∈ n.operands) :
    ∃ before after, t.views = before ++ n.view :: after ∧ o.view ∈ after := by
  induction t with
  | relation name v =>
    obtain rfl := List.mem_singleton.mp hn
    simp [operands] at ho
  | unary op t v ih =>
    rcases List.mem_cons.mp hn with rfl | hn
    · obtain rfl := List.mem_singleton.mp ho
      exact ⟨[], o.views, rfl, o.view_mem_views⟩
    · obtain ⟨before, after, hviews, hafter⟩ := ih hn
      exact ⟨v :: before, after, by rw [views, hviews, List.cons_append], hafter⟩
  | binary op l r v ihl ihr =>
    rcases List.mem_cons.mp hn with rfl | hn
    · refine ⟨[], l.views ++ r.views, rfl, ?_⟩
      simp only [operands, List.mem_cons, List.not_mem_nil, or_false] at ho
      rcases ho with rfl | rfl
      · exact List.mem_append_left _ o.view_mem_views
      · exact List.mem_append_right _ o.view_mem_views
    · rcases List.mem_append.mp hn with hn | hn
      · obtain ⟨before, after, hviews, hafter⟩ := ihl hn
        exact ⟨v :: before, after ++ r.views, by simp [views, hviews],
          List.mem_append_left _ hafter⟩
      · obtain ⟨before, after, hviews, hafter⟩ := ihr hn
        exact ⟨v :: (l.views ++ before), after, by simp [views, hviews], hafter⟩

lemma prefix_of_not_mem {α : Type} {dropped before after : List α} {x : α}
    (h : dropped <+: before ++ x :: after) (hx : x ∉ dropped) : dropped <+: before := by
  obtain ⟨rest, h⟩ := h
  rcases List.append_eq_append_iff.mp h with ⟨more, hbefore, -⟩ | ⟨more, hdropped, hrest⟩
  · exact ⟨more, hbefore.symm⟩
  · cases more with
    | nil => exact ⟨[], by rw [hdropped, List.append_nil, List.append_nil]⟩
    | cons y more =>
      obtain rfl := (List.cons.inj hrest).1
      exact absurd (by simp [hdropped]) hx

/-- An operator is dropped before its operands: where a first part of the views has been dropped and
an operand is among them, so is its operator. -/
lemma name_mem_of_operand {t n o : ViewTree} {dropped : List String}
    (hnd : (t.views.map View.name).Nodup) (hd : dropped <+: t.views.map View.name)
    (hn : n ∈ t.nodes) (ho : o ∈ n.operands) (hdropped : o.view.name ∈ dropped) :
    n.view.name ∈ dropped := by
  by_contra hnot
  obtain ⟨before, after, hviews, hafter⟩ := exists_views_split hn ho
  have hsplit : t.views.map View.name =
      before.map View.name ++ n.view.name :: after.map View.name := by
    rw [hviews, List.map_append, List.map_cons]
  rw [hsplit] at hd hnd
  have hbefore : o.view.name ∈ before.map View.name := (prefix_of_not_mem hd hnot).subset hdropped
  have hafter' : o.view.name ∈ n.view.name :: after.map View.name :=
    List.mem_cons_of_mem _ (List.mem_map_of_mem hafter)
  exact (List.nodup_append.mp hnd).2.2 _ hbefore _ hafter' rfl

lemma view_name_ofExpr (e : Expr) (s : View.NameSupply) :
    (ofExpr e s).1.view.name = View.nameOf (s.issued + e.size) := by
  cases e with
  | relation name => rfl
  | unary op e =>
    simp only [ofExpr, view, View.NameSupply.next, issued_ofExpr, Expr.size]
    rfl
  | binary op l r =>
    simp only [ofExpr, view, View.NameSupply.next, issued_ofExpr, Expr.size]
    congr 1
    omega

lemma operand_number_lt {e : Expr} {s : View.NameSupply} {n o : ViewTree}
    (hn : n ∈ (ofExpr e s).1.nodes) (ho : o ∈ n.operands) :
    ∃ i j, s.issued < i ∧ i < j ∧ o.view.name = View.nameOf i ∧ n.view.name = View.nameOf j := by
  have hpos (e : Expr) : 0 < e.size := by cases e <;> simp [Expr.size]
  induction e generalizing s with
  | relation name =>
    obtain rfl := List.mem_singleton.mp hn
    simp [operands] at ho
  | unary op e ih =>
    rcases List.mem_cons.mp hn with rfl | hn
    · obtain rfl := List.mem_singleton.mp ho
      have := hpos e
      refine ⟨s.issued + e.size, s.issued + e.size + 1, by omega, by omega,
        view_name_ofExpr e s, ?_⟩
      rw [← issued_ofExpr]
      rfl
    · exact ih hn
  | binary op l r ihl ihr =>
    have hl := hpos l
    have hr := hpos r
    rcases List.mem_cons.mp hn with rfl | hn
    · have hroot : (ofExpr (.binary op l r) s).1.view.name =
          View.nameOf (s.issued + l.size + r.size + 1) := by
        rw [view_name_ofExpr, Expr.size]
        congr 1
        omega
      simp only [operands, List.mem_cons, List.not_mem_nil, or_false] at ho
      -- the right operand is numbered after the left one, and their operator after both
      rcases ho with rfl | rfl
      · exact ⟨_, _, by omega, by omega, view_name_ofExpr l s, hroot⟩
      · refine ⟨s.issued + l.size + r.size, _, by omega, by omega, ?_, hroot⟩
        rw [view_name_ofExpr, issued_ofExpr]
    · rcases List.mem_append.mp hn with hn | hn
      · exact ihl hn
      · obtain ⟨i, j, hi, hij, hoi, hnj⟩ := ihr hn
        rw [issued_ofExpr] at hi
        exact ⟨i, j, by omega, hij, hoi, hnj⟩

end RelAlgebra.ViewTree

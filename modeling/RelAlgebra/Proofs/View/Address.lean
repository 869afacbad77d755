import RelAlgebra.Proofs.View.Order

/-!
Addresses in a tree.

The address of a node is the way to it from the root, at each step the number of an operand, so two
nodes that look the same have different addresses. In the lexicographic order a node comes before
its descendants and a left operand before a right one, and this is how the nodes of a tree are
listed. In a new tree the names of the views tell the nodes apart as well.
-/

namespace RelAlgebra.ViewTree

def at? (t : ViewTree) : List ℕ → Option ViewTree
  | [] => some t
  | i :: p => t.operands[i]?.bind fun o => o.at? p

/-- The addresses of all nodes, each before those of the operands. -/
def addresses : ViewTree → List (List ℕ)
  | relation _ _ => [[]]
  | unary _ t _ => [] :: t.addresses.map (0 :: ·)
  | binary _ l r _ => [] :: (l.addresses.map (0 :: ·) ++ r.addresses.map (1 :: ·))

@[simp] lemma at?_nil (t : ViewTree) : t.at? [] = some t := rfl

lemma at?_cons_eq_some_iff {t n : ViewTree} {i : ℕ} {p : List ℕ} :
    t.at? (i :: p) = some n ↔ ∃ o, t.operands[i]? = some o ∧ o.at? p = some n :=
  Option.bind_eq_some_iff

lemma at?_append (t : ViewTree) (p q : List ℕ) : t.at? (p ++ q) = (t.at? p).bind (·.at? q) := by
  induction p generalizing t with
  | nil => rfl
  | cons i p ih =>
    simp only [List.cons_append, at?]
    cases t.operands[i]? with
    | none => rfl
    | some o => exact ih o

lemma map_at?_addresses (t : ViewTree) : t.addresses.map t.at? = t.nodes.map some := by
  induction t with
  | relation name v => rfl
  | unary op t v ih =>
    have hbelow : t.addresses.map ((unary op t v).at? ∘ (0 :: ·)) = t.nodes.map some := ih
    simp [addresses, nodes, hbelow]
  | binary op l r v ihl ihr =>
    have hl : l.addresses.map ((binary op l r v).at? ∘ (0 :: ·)) = l.nodes.map some := ihl
    have hr : r.addresses.map ((binary op l r v).at? ∘ (1 :: ·)) = r.nodes.map some := ihr
    simp [addresses, nodes, hl, hr]

lemma mem_addresses {t : ViewTree} {p : List ℕ} : p ∈ t.addresses ↔ ∃ n, t.at? p = some n := by
  induction t generalizing p with
  | relation name v => cases p <;> simp [addresses, at?, operands]
  | unary op t v ih =>
    rcases p with _ | ⟨_ | i, p⟩ <;> simp [addresses, at?, operands, ih]
  | binary op l r v ihl ihr =>
    rcases p with _ | ⟨_ | _ | i, p⟩ <;> simp [addresses, at?, operands, ihl, ihr]

lemma pairwise_addresses (t : ViewTree) : t.addresses.Pairwise (· < ·) := by
  have hbelow {ps : List (List ℕ)} (i : ℕ) (h : ps.Pairwise (· < ·)) :
      (ps.map (i :: ·)).Pairwise (· < ·) :=
    List.pairwise_map.mpr (h.imp fun hlt => List.cons_lt_cons_iff.mpr (.inr ⟨rfl, hlt⟩))
  induction t with
  | relation name v => exact List.pairwise_singleton _ _
  | unary op t v ih =>
    refine List.pairwise_cons.mpr ⟨fun q hq => ?_, hbelow 0 ih⟩
    obtain ⟨p, -, rfl⟩ := List.mem_map.mp hq
    exact List.nil_lt_cons 0 p
  | binary op l r v ihl ihr =>
    refine List.pairwise_cons.mpr ⟨fun q hq => ?_, List.pairwise_append.mpr ⟨hbelow 0 ihl,
      hbelow 1 ihr, fun q hq q' hq' => ?_⟩⟩
    · rcases List.mem_append.mp hq with hq | hq
      · obtain ⟨p, -, rfl⟩ := List.mem_map.mp hq
        exact List.nil_lt_cons 0 p
      · obtain ⟨p, -, rfl⟩ := List.mem_map.mp hq
        exact List.nil_lt_cons 1 p
    · obtain ⟨p, -, rfl⟩ := List.mem_map.mp hq
      obtain ⟨p', -, rfl⟩ := List.mem_map.mp hq'
      exact List.cons_lt_cons_iff.mpr (.inl Nat.zero_lt_one)

lemma mem_nodes_iff {t n : ViewTree} : n ∈ t.nodes ↔ ∃ p, t.at? p = some n := by
  have hmem : n ∈ t.nodes ↔ some n ∈ t.addresses.map t.at? := by
    rw [map_at?_addresses, List.mem_map_of_injective (Option.some_injective _)]
  rw [hmem, List.mem_map]
  constructor
  · rintro ⟨p, -, hp⟩
    exact ⟨p, hp⟩
  · rintro ⟨p, hp⟩
    exact ⟨p, mem_addresses.mpr ⟨n, hp⟩, hp⟩

lemma nodes_perm_subtrees (t : ViewTree) : t.nodes.Perm t.subtrees := by
  induction t with
  | relation name v => exact .refl _
  | unary op t v ih => exact (ih.cons _).trans (List.perm_append_singleton _ _).symm
  | binary op l r v ihl ihr =>
    exact ((ihl.append ihr).cons _).trans (List.perm_append_singleton _ _).symm

/-! ### Names -/

lemma nodup_names_nodes {t : ViewTree} (h : t.viewNames.Nodup) :
    (t.nodes.map fun n => n.view.name).Nodup := by
  have hnames : t.nodes.map (fun n => n.view.name) = t.views.map View.name := by
    rw [← map_view_nodes, List.map_map]
    rfl
  rw [hnames]
  exact ((views_perm_postorder t).map View.name).nodup_iff.mpr h

lemma address_unique {t n m : ViewTree} {p q : List ℕ} (h : t.viewNames.Nodup)
    (hp : t.at? p = some n) (hq : t.at? q = some m) (hname : n.view.name = m.view.name) :
    p = q := by
  have hnames : t.addresses.map (fun p => (t.at? p).map fun n => n.view.name) =
      (t.nodes.map fun n => n.view.name).map some := by
    calc t.addresses.map (fun p => (t.at? p).map fun n => n.view.name)
        = (t.addresses.map t.at?).map (Option.map fun n => n.view.name) := by simp
      _ = (t.nodes.map fun n => n.view.name).map some := by simp [map_at?_addresses]
  have hnd : (t.addresses.map fun p => (t.at? p).map fun n => n.view.name).Nodup := by
    rw [hnames]
    exact (nodup_names_nodes h).map (Option.some_injective _)
  refine List.inj_on_of_nodup_map hnd (mem_addresses.mpr ⟨n, hp⟩) (mem_addresses.mpr ⟨m, hq⟩) ?_
  simp only [hp, hq, Option.map_some, hname]

lemma view_mem_of_mem_nodes {t n : ViewTree} (h : n ∈ t.nodes) : n.view ∈ t.postorder := by
  have hview : n.view ∈ t.views := map_view_nodes t ▸ List.mem_map_of_mem h
  exact (views_perm_postorder t).mem_iff.mp hview

lemma view_mem_of_at? {t n : ViewTree} {p : List ℕ} (h : t.at? p = some n) :
    n.view ∈ t.postorder :=
  view_mem_of_mem_nodes (mem_nodes_iff.mpr ⟨p, h⟩)

lemma find?_of_at? {t n : ViewTree} {p : List ℕ} (h : t.viewNames.Nodup)
    (hp : t.at? p = some n) : t.find? n.view.name = some n := by
  have hn := mem_nodes_iff.mpr ⟨p, hp⟩
  cases hfound : t.find? n.view.name with
  | none =>
    rw [find?, List.find?_eq_none] at hfound
    exact absurd (beq_self_eq_true _) (hfound n hn)
  | some m =>
    have hname : m.view.name = n.view.name := by simpa using List.find?_some hfound
    rw [List.inj_on_of_nodup_map (nodup_names_nodes h) (List.mem_of_find?_eq_some hfound) hn hname]

lemma find?_eq_none_of_not_mem {t : ViewTree} {name : String} (h : name ∉ t.viewNames) :
    t.find? name = none := by
  refine List.find?_eq_none.mpr fun n hn hname => h ?_
  rw [← beq_iff_eq.mp hname]
  exact List.mem_map_of_mem (view_mem_of_mem_nodes hn)

lemma descendant_number_lt {e : Expr} {s : View.NameSupply} {n d : ViewTree} {p q : List ℕ} {i : ℕ}
    (hn : (ofExpr e s).1.at? p = some n) (hd : n.at? (i :: q) = some d) :
    ∃ j k, j < k ∧ d.view.name = View.nameOf j ∧ n.view.name = View.nameOf k := by
  induction q generalizing p i n with
  | nil =>
    obtain ⟨o, ho, hod⟩ := at?_cons_eq_some_iff.mp hd
    obtain rfl := Option.some.inj hod
    obtain ⟨j, k, -, hlt, hj, hk⟩ :=
      operand_number_lt (mem_nodes_iff.mpr ⟨p, hn⟩) (List.mem_of_getElem? ho)
    exact ⟨j, k, hlt, hj, hk⟩
  | cons i' q ih =>
    obtain ⟨o, ho, hod⟩ := at?_cons_eq_some_iff.mp hd
    have hp : (ofExpr e s).1.at? (p ++ [i]) = some o := by
      rw [at?_append, hn, Option.bind_some, at?_cons_eq_some_iff]
      exact ⟨o, ho, rfl⟩
    obtain ⟨j, k, hjk, hj, hk⟩ := ih hp hod
    obtain ⟨k', l, -, hlt, hk', hl⟩ :=
      operand_number_lt (mem_nodes_iff.mpr ⟨p, hn⟩) (List.mem_of_getElem? ho)
    obtain rfl := View.nameOf_injective (hk.symm.trans hk')
    exact ⟨j, l, hjk.trans hlt, hj, hl⟩

/-- **The views of a new tree are numbered in the order in which they are made, and their names tell
its nodes apart.** The numbers go on from those given out before. No two nodes share a name, a node
has a greater number than its descendants, and a node is found by its name and no other is. -/
theorem ofExpr_numbered (e : Expr) (s : View.NameSupply) :
    let t := (ofExpr e s).1
    t.expr = e ∧
      t.viewNames =
        (List.range' (s.issued + 1) e.size).map (fun k => "RA_TMP_VIEW_" ++ toString k) ∧
      (ofExpr e s).2.issued = s.issued + e.size ∧
      (∀ p q n m, t.at? p = some n → t.at? q = some m → n.view.name = m.view.name → p = q) ∧
      (∀ p n i q d, t.at? p = some n → n.at? (i :: q) = some d →
        ∃ j k, j < k ∧ d.view.name = View.nameOf j ∧ n.view.name = View.nameOf k) ∧
      (∀ p n, t.at? p = some n → t.find? n.view.name = some n) ∧
      ∀ name ∉ t.viewNames, t.find? name = none := by
  intro t
  have hnames : t.viewNames = View.namesAfter s.issued e.size := viewNames_ofExpr e s
  have hnd : t.viewNames.Nodup := hnames ▸ View.nodup_namesAfter _ _
  refine ⟨expr_ofExpr e s, hnames, issued_ofExpr e s, ?_, ?_, ?_, ?_⟩
  · intro p q n m hp hq hname
    exact address_unique hnd hp hq hname
  · intro p n i q d hn hd
    exact descendant_number_lt hn hd
  · intro p n hp
    exact find?_of_at? hnd hp
  · intro name hname
    exact find?_eq_none_of_not_mem hname

end RelAlgebra.ViewTree

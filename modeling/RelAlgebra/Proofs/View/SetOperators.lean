import RelAlgebra.Proofs.View.Generators
import RelAlgebra.Sql.Rows

/-!
Set operators with and without words for them.

Where a dialect lacks the operators, the query of a difference or an intersection searches the right
relation for each row of the left one. The search compares the columns of both one by one, and a
comparison with NULL is never true, while the operators themselves take NULLs for equal. So the two
queries differ in the rows that have a NULL and are in both relations, and in no others.
-/

namespace RelAlgebra

namespace Sql

variable {α : Type}

/-! ### Conditions -/

@[simp] lemma Truth.and_eq_yes {s t : Truth} : s.and t = yes ↔ s = yes ∧ t = yes := by
  cases s <;> cases t <;> simp [Truth.and]

lemma Truth.all_eq_yes {conditions : List Truth} :
    all conditions = yes ↔ ∀ t ∈ conditions, t = yes := by
  induction conditions with
  | nil => simp [all]
  | cons t conditions ih =>
    have hcons : all (t :: conditions) = t.and (all conditions) := rfl
    rw [hcons, and_eq_yes, ih, List.forall_mem_cons]

/-- Equality of values that may be NULL. -/
def equalValues [DecidableEq α] : Option α → Option α → Truth
  | some a, some b => .ofBool (decide (a = b))
  | _, _ => .unknown

lemma equalValues_eq_yes [DecidableEq α] {a b : Option α} :
    equalValues a b = .yes ↔ ∃ v, a = some v ∧ b = some v := by
  cases a <;> cases b <;> simp [equalValues, Truth.ofBool, eq_comm]

lemma comparison_eq_yes [DecidableEq α] {row other : List (Option α)} {i j : ℕ} :
    comparison equalValues row other (.outer i, .inner j) = .yes ↔
      ∃ v, row[i]? = some (some v) ∧ other[j]? = some (some v) := by
  simp only [comparison, Position.value?]
  cases row[i]? <;> cases other[j]? <;> simp [equalValues_eq_yes]

/-- The comparison of each column of the outer relation with the inner one in its place. -/
def byPlace (n : ℕ) : List (Position × Position) :=
  (List.range n).map fun i => (.outer i, .inner i)

/-- Compared place by place, two rows agree when they are equal and have no NULL. -/
lemma agreement_byPlace [DecidableEq α] {n : ℕ} {row other : List (Option α)}
    (hrow : row.length = n) (hother : other.length = n) :
    agreement equalValues (byPlace n) row other = .yes ↔ row = other ∧ none ∉ row := by
  have hall : agreement equalValues (byPlace n) row other = .yes ↔
      ∀ i < n, ∃ v, row[i]? = some (some v) ∧ other[i]? = some (some v) := by
    simp only [agreement, byPlace, Truth.all_eq_yes, List.map_map, List.forall_mem_map,
      List.mem_range, Function.comp_apply, comparison_eq_yes]
  rw [hall]
  constructor
  · intro heach
    constructor
    · refine List.ext_getElem? fun i => ?_
      by_cases hi : i < n
      · obtain ⟨v, hv, hv'⟩ := heach i hi
        rw [hv, hv']
      · rw [List.getElem?_eq_none (by omega), List.getElem?_eq_none (by omega)]
    · intro hnone
      -- a NULL agrees with no value, not even with the NULL in its place
      obtain ⟨i, hi, hget⟩ := List.getElem_of_mem hnone
      obtain ⟨v, hv, -⟩ := heach i (hrow ▸ hi)
      rw [List.getElem?_eq_getElem hi, hget] at hv
      cases hv
  · rintro ⟨rfl, hnone⟩ i hi
    have hget : row[i]? = some row[i] := List.getElem?_eq_getElem (hrow ▸ hi)
    cases hv : row[i] with
    | none => exact absurd (hv ▸ List.getElem_mem _) hnone
    | some v => exact ⟨v, hget.trans (by rw [hv]), hget.trans (by rw [hv])⟩

/-! ### Rows -/

lemma eraseDups_of_nodup [BEq α] [LawfulBEq α] {xs : List α} (h : xs.Nodup) :
    xs.eraseDups = xs := by
  induction xs with
  | nil => rfl
  | cons x xs ih =>
    obtain ⟨hx, hxs⟩ := List.nodup_cons.mp h
    have hkept : xs.filter (fun y => !y == x) = xs :=
      List.filter_eq_self.mpr fun y hy => by simpa using ne_of_mem_of_not_mem hy hx
    rw [List.eraseDups_cons, hkept, ih hxs]

lemma mem_searched {equal : α → α → Truth} {pairs : List (Position × Position)} {absent : Bool}
    {outer inner : List (List α)} {row : List α} :
    row ∈ searched equal pairs absent outer inner ↔
      row ∈ outer ∧
        ((∃ other ∈ inner, agreement equal pairs row other = .yes) ↔ absent = false) := by
  have hany : (inner.any fun other => decide (agreement equal pairs row other = .yes)) = true ↔
      ∃ other ∈ inner, agreement equal pairs row other = .yes := by simp
  rw [searched, List.mem_filter, ← hany]
  refine and_congr_right fun _ => ?_
  cases absent <;> simp

lemma nodup_searched {equal : α → α → Truth} {pairs : List (Position × Position)} {absent : Bool}
    {outer inner : List (List α)} (h : outer.Nodup) :
    (searched equal pairs absent outer inner).Nodup :=
  h.filter _

lemma SetOp.nodup_rows [BEq α] [LawfulBEq α] {op : SetOp} {left right : List (List α)}
    (h : left.Nodup) : (op.rows left right).Nodup := by
  rw [SetOp.rows, eraseDups_of_nodup (h.filter _)]
  exact h.filter _

lemma SetOp.mem_rows [BEq α] [LawfulBEq α] {op : SetOp} {left right : List (List α)}
    {row : List α} :
    row ∈ op.rows left right ↔ row ∈ left ∧ (row ∈ right ↔ op = .intersect) := by
  rw [SetOp.rows, List.mem_eraseDups, List.mem_filter]
  refine and_congr_right fun _ => ?_
  rw [← List.contains_iff_mem]
  cases op <;> simp

/-! ### Queries -/

/-- A relation of a database. No two columns have names that are the same, and no row is there
twice. -/
structure Relation (same : String → String → Bool) (α : Type) where
  columns : List String
  rows : List (List (Option α))
  columns_differ : columns.Pairwise fun a b => same a b = false
  rows_nodup : rows.Nodup
  width : ∀ row ∈ rows, row.length = columns.length

variable {same : String → String → Bool}

def Relation.heading (x : Relation same α) (name : String) : Heading := ⟨name, x.columns⟩

def places? (same : String → String → Bool) (outer inner : Heading)
    (pairs : List (String × String)) : Option (List (Position × Position)) :=
  pairs.mapM fun (a, b) => do
    let left ← locate? same outer inner ⟨outer.relation, a⟩
    let right ← locate? same outer inner ⟨inner.relation, b⟩
    return (left, right)

/-- The rows that the query of a set operator selects. It is no query of one if a relation or a
column is missing, the relations differ in width, or there is nothing to compare. -/
def Query.rows? [DecidableEq α] (relations : String → Option (Relation same α)) :
    Query → Option (List (List (Option α)))
  | .setOp op left right => do
    let x ← relations left
    let y ← relations right
    if x.columns.length = y.columns.length then return op.rows x.rows y.rows else none
  | .search op left right pairs => do
    let x ← relations left
    let y ← relations right
    let places ← places? same (x.heading left) (y.heading right) pairs
    if places = [] then none
    else
      match op with
      | .except => return searched equalValues places true x.rows y.rows
      | .intersect => return (searched equalValues places false x.rows y.rows).eraseDups
  | _ => none

lemma index?_column (hsame : ∀ name, same name name = true) (x : Relation same α) (name : String)
    {i : ℕ} (hi : i < x.columns.length) :
    (x.heading name).index? same ⟨name, x.columns[i]⟩ = some i := by
  have hdiffer := List.pairwise_iff_getElem.mp x.columns_differ
  simp only [Heading.index?, Relation.heading, hsame, if_true]
  refine List.findIdx?_eq_some_iff_getElem.mpr ⟨hi, hsame _, fun j hj => ?_⟩
  simp [hdiffer j i (by omega) hi hj]

lemma index?_other {x : Relation same α} {name other : String} (h : same name other = false)
    (column : String) : (x.heading name).index? same ⟨other, column⟩ = none := by
  simp [Heading.index?, Relation.heading, h]

lemma mapM_eq_range {β γ : Type} {f : β → Option γ} {g : ℕ → γ} {xs : List β}
    (h : ∀ i (hi : i < xs.length), f xs[i] = some (g i)) :
    xs.mapM f = some ((List.range xs.length).map g) := by
  induction xs generalizing g with
  | nil => rfl
  | cons x xs ih =>
    have hhead : f x = some (g 0) := h 0 (Nat.succ_pos _)
    have htail : xs.mapM f = some ((List.range xs.length).map fun i => g (i + 1)) :=
      ih fun i hi => h (i + 1) (Nat.succ_lt_succ hi)
    rw [List.mapM_cons, hhead, htail, List.length_cons, List.range_succ_eq_map, List.map_cons,
      List.map_map]
    rfl

lemma places?_zip (hsame : ∀ name, same name name = true) {x y : Relation same α}
    {left right : String} (hnames : same right left = false)
    (harity : x.columns.length = y.columns.length) :
    places? same (x.heading left) (y.heading right) (x.columns.zip y.columns) =
      some (byPlace x.columns.length) := by
  have hpair (i : ℕ) (hx : i < x.columns.length) (hy : i < y.columns.length) :
      locate? same (x.heading left) (y.heading right) ⟨left, x.columns[i]⟩ = some (.outer i) ∧
        locate? same (x.heading left) (y.heading right) ⟨right, y.columns[i]⟩ =
          some (.inner i) := by
    simp [locate?, index?_column hsame, index?_other hnames]
  have hlength : (x.columns.zip y.columns).length = x.columns.length := by
    rw [List.length_zip, harity, min_self]
  rw [places?, byPlace, ← hlength]
  refine mapM_eq_range fun i hi => ?_
  rw [hlength] at hi
  obtain ⟨hleft, hright⟩ := hpair i hi (harity ▸ hi)
  simp only [List.getElem_zip]
  rw [Relation.heading, Relation.heading] at hleft hright ⊢
  simp only [hleft, hright]
  rfl

section

variable [DecidableEq α] {relations : String → Option (Relation same α)} {x y : Relation same α}
  {left right : String}

lemma rows?_setOp (hx : relations left = some x) (hy : relations right = some y)
    (harity : x.columns.length = y.columns.length) (op : SetOp) :
    (Query.setOp op left right).rows? relations = some (op.rows x.rows y.rows) := by
  simp [Query.rows?, hx, hy, harity]

lemma exists_rows?_search (hsame : ∀ name, same name name = true) (hx : relations left = some x)
    (hy : relations right = some y) (hnames : same right left = false)
    (harity : x.columns.length = y.columns.length) (hcolumns : x.columns ≠ []) (op : SetOp) :
    ∃ rows, (Query.search op left right (x.columns.zip y.columns)).rows? relations = some rows ∧
      rows.Nodup ∧ ∀ row, row ∈ rows ↔
        row ∈ x.rows ∧ ((row ∈ y.rows ∧ none ∉ row) ↔ op = .intersect) := by
  have hplaces : byPlace x.columns.length ≠ [] := by simpa [byPlace] using hcolumns
  -- the only row that a search can find is the row itself
  have hfound (row : List (Option α)) (hrow : row ∈ x.rows) :
      (∃ other ∈ y.rows, agreement equalValues (byPlace x.columns.length) row other = .yes) ↔
        row ∈ y.rows ∧ none ∉ row := by
    have hagree (other : List (Option α)) (hother : other ∈ y.rows) :=
      agreement_byPlace (x.width row hrow) ((y.width other hother).trans harity.symm)
    constructor
    · rintro ⟨other, hother, hyes⟩
      obtain ⟨rfl, hnone⟩ := (hagree other hother).mp hyes
      exact ⟨hother, hnone⟩
    · rintro ⟨hrow', hnone⟩
      exact ⟨row, hrow', (hagree row hrow').mpr ⟨rfl, hnone⟩⟩
  have hsearched (absent : Bool) (row : List (Option α)) :
      row ∈ searched equalValues (byPlace x.columns.length) absent x.rows y.rows ↔
        row ∈ x.rows ∧ ((row ∈ y.rows ∧ none ∉ row) ↔ absent = false) := by
    rw [mem_searched]
    exact and_congr_right fun hrow => by rw [hfound row hrow]
  simp only [Query.rows?, hx, hy, places?_zip hsame hnames harity, Option.bind_eq_bind,
    Option.bind_some, hplaces, if_false]
  cases op with
  | except => exact ⟨_, rfl, nodup_searched x.rows_nodup, fun row => by simp [hsearched]⟩
  | intersect =>
    rw [eraseDups_of_nodup (nodup_searched x.rows_nodup)]
    exact ⟨_, rfl, nodup_searched x.rows_nodup, fun row => by simp [hsearched]⟩

end

def SetOp.operator : SetOp → BinaryOp
  | except => .diff
  | intersect => .intersect

end Sql

namespace ViewTree

open Sql

variable {α : Type} {same : String → String → Bool}
  {relations : String → Option (Relation same α)} {x y : Relation same α} {l r : ViewTree}

def rows? [DecidableEq α] (d : Dialect) (relations : String → Option (Relation same α))
    (t : ViewTree) : Option (List (List (Option α))) :=
  (t.query d).toOption.bind (Query.rows? relations)

/-- The view of a node has been made and is the given relation. -/
structure Shows (relations : String → Option (Relation same α)) (t : ViewTree)
    (x : Relation same α) : Prop where
  relation : relations t.view.name = some x
  schema : ∃ schema, t.knownSchema = .ok schema ∧ schema.columnNames = x.columns

lemma query_native {d : Dialect} (hd : d.hasSetOperators = true) (op : SetOp) (v : View) :
    (binary op.operator l r v).query d = .ok (.setOp op l.view.name r.view.name) := by
  cases op <;> simp [SetOp.operator, query_eq, setOperation, hd]

lemma query_emulated {d : Dialect} (hd : d.hasSetOperators = false) (hl : l.Shows relations x)
    (hr : r.Shows relations y) (harity : x.columns.length = y.columns.length) (op : SetOp)
    (v : View) :
    (binary op.operator l r v).query d =
      .ok (.search op l.view.name r.view.name (x.columns.zip y.columns)) := by
  obtain ⟨left, hleft, hx⟩ := hl.schema
  obtain ⟨right, hright, hy⟩ := hr.schema
  have hsame : left.arity = right.arity := by
    rw [Schema.arity, Schema.arity, ← List.length_map Column.name, ← List.length_map Column.name]
    exact (congrArg List.length hx).trans (harity.trans (congrArg List.length hy).symm)
  cases op <;>
    simp [SetOp.operator, query_eq, setOperation, hd, hleft, hright, hsame, hx, hy, bind,
      Except.bind]

/-- **The search that stands for a set operator and the operator itself differ in just the rows with
a NULL that both relations have.** -/
theorem emulated_agrees_iff [DecidableEq α] (hsame : ∀ name, same name name = true)
    {d : Dialect} (hd : d.hasSetOperators = true) (hl : l.Shows relations x)
    (hr : r.Shows relations y) (hnames : same r.view.name l.view.name = false)
    (harity : x.columns.length = y.columns.length) (hcolumns : x.columns ≠ []) (op : SetOp)
    (v : View) :
    ∃ native emulated,
      (binary op.operator l r v).rows? d relations = some native ∧
      (binary op.operator l r v).rows? .mysql relations = some emulated ∧
      native.Nodup ∧ emulated.Nodup ∧
      (∀ row, row ∈ native ↔ row ∈ x.rows ∧ (row ∈ y.rows ↔ op = .intersect)) ∧
      (∀ row, (row ∈ emulated ↔ row ∈ native) ↔
        ¬ (row ∈ x.rows ∧ row ∈ y.rows ∧ none ∈ row)) ∧
      ((∀ row, row ∈ emulated ↔ row ∈ native) ↔ ∀ row ∈ x.rows, row ∈ y.rows → none ∉ row) := by
  obtain ⟨emulated, hemulated, hnodup, hmem⟩ :=
    exists_rows?_search hsame hl.relation hr.relation hnames harity hcolumns op
  have hdiffer (row : List (Option α)) :
      (row ∈ emulated ↔ row ∈ op.rows x.rows y.rows) ↔
        ¬ (row ∈ x.rows ∧ row ∈ y.rows ∧ none ∈ row) := by
    rw [hmem, SetOp.mem_rows]
    cases op <;> simp only [reduceCtorEq, iff_true, iff_false] <;> tauto
  refine ⟨op.rows x.rows y.rows, emulated, ?_, ?_, SetOp.nodup_rows x.rows_nodup, hnodup,
    fun row => SetOp.mem_rows, hdiffer, ?_⟩
  · rw [rows?, query_native hd]
    exact rows?_setOp hl.relation hr.relation harity op
  · rw [rows?, query_emulated rfl hl hr harity]
    exact hemulated
  · simp only [hdiffer, not_and]

/-- A relation whose view has been made. -/
def standing (n : ℕ) (columns : List String) : ViewTree :=
  let name := View.nameOf n
  .relation "R" ⟨name, .correct, some ⟨name, columns.map fun c => ⟨c, "INTEGER"⟩⟩⟩

def nullLast : Relation (· == ·) ℕ where
  columns := ["a", "b"]
  rows := [[some 1, none], [some 2, some 3]]
  columns_differ := by decide
  rows_nodup := by decide
  width := by decide

def nullFirst : Relation (· == ·) ℕ where
  columns := ["b", "c"]
  rows := [[none, some 1], [some 2, some 3]]
  columns_differ := by decide
  rows_nodup := by decide
  width := by decide

/-- Both relations have a row with a NULL, but not the same one. -/
theorem nulls_apart_agree :
    let relations := fun name => if name = View.nameOf 1 then some nullLast else some nullFirst
    let l := standing 1 ["a", "b"]
    let r := standing 2 ["b", "c"]
    let t := binary .diff l r { name := View.nameOf 3 }
    (l.Shows relations nullLast ∧ r.Shows relations nullFirst) ∧
      ∃ native emulated, t.rows? .sqlite relations = some native ∧
        t.rows? .mysql relations = some emulated ∧ ∀ row, row ∈ emulated ↔ row ∈ native := by
  intro relations l r t
  have hl : l.Shows relations nullLast := ⟨rfl, _, rfl, rfl⟩
  have hr : r.Shows relations nullFirst := ⟨rfl, _, rfl, rfl⟩
  obtain ⟨native, emulated, hnative, hemulated, -, -, -, -, hagree⟩ :=
    emulated_agrees_iff (fun name => beq_self_eq_true name) (d := .sqlite) rfl hl hr (by decide)
      rfl (by decide) .except { name := View.nameOf 3 }
  exact ⟨⟨hl, hr⟩, native, emulated, hnative, hemulated, hagree.mpr (by decide)⟩

/-- One column, and a NULL in the only row. -/
def nullOnly : Relation (· == ·) ℕ where
  columns := ["a"]
  rows := [[none]]
  columns_differ := by decide
  rows_nodup := by decide
  width := by decide

/-- Both relations are the same row with a NULL. -/
theorem null_row_differs :
    let relations := fun (_ : String) => some nullOnly
    let l := standing 1 ["a"]
    let r := standing 2 ["a"]
    let t := fun op => binary op l r { name := View.nameOf 3 }
    (l.Shows relations nullOnly ∧ r.Shows relations nullOnly) ∧
      (t .diff).rows? .sqlite relations = some [] ∧
      (t .diff).rows? .mysql relations = some [[none]] ∧
      (t .intersect).rows? .sqlite relations = some [[none]] ∧
      (t .intersect).rows? .mysql relations = some [] :=
  ⟨⟨⟨rfl, _, rfl, rfl⟩, ⟨rfl, _, rfl, rfl⟩⟩, by decide +kernel⟩

end ViewTree

end RelAlgebra

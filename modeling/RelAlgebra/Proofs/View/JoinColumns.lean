import RelAlgebra.Proofs.View.Generators

/-!
The columns of a natural join.

A right column is shared if a left one has its name, and stands for itself otherwise. The shared
columns are found by comparing names, and the others by taking away the spellings of the shared
ones. Both give the same parts of the right columns, also where names are repeated or differ in
case only. So the join has every left column, and each right column that is not shared.
-/

namespace RelAlgebra

/-! ### Names -/

/-- A name with its ASCII letters in lower case. Names are compared in this form. -/
def folded (name : String) : List Char := name.toList.map Char.toLower

lemma sameColumn_iff {a b : String} : sameColumn a b = true ↔ folded a = folded b := by
  simp [sameColumn, folded]

/-- The first of the columns that has the name, in its own spelling. -/
def FirstNamed (columns : List String) (name first : String) : Prop :=
  folded first = folded name ∧
    ∃ before after, columns = before ++ first :: after ∧ ∀ c ∈ before, folded c ≠ folded name

lemma find?_sameColumn {columns : List String} {name first : String} :
    columns.find? (sameColumn · name) = some first ↔ FirstNamed columns name first := by
  simp [List.find?_eq_some_iff_append, FirstNamed, sameColumn_iff, ← Bool.not_eq_true]

lemma find?_sameColumn_eq_none {columns : List String} {name : String} :
    columns.find? (sameColumn · name) = none ↔ ∀ c ∈ columns, folded c ≠ folded name := by
  simp [List.find?_eq_none, sameColumn_iff]

/-! ### The two parts of the right columns -/

/-- The right columns that have the name of no left one. -/
def unshared (left right : List String) : List String :=
  right.filter fun r => ∀ l ∈ left, folded l ≠ folded r

section

variable {left right : List String}

lemma map_snd_sharedColumns :
    (sharedColumns left right).map Prod.snd =
      right.filter fun r => ∃ l ∈ left, folded l = folded r := by
  induction right with
  | nil => rfl
  | cons r right ih =>
    rw [sharedColumns] at ih ⊢
    cases hfind : left.find? (sameColumn · r) with
    | none =>
      have hnone := find?_sameColumn_eq_none.mp hfind
      rw [List.filterMap_cons_none (by rw [hfind]; rfl), ih, List.filter_cons_of_neg (by simpa)]
    | some l =>
      obtain ⟨hsame, before, after, rfl, -⟩ := find?_sameColumn.mp hfind
      have hex : ∃ c ∈ before ++ l :: after, folded c = folded r := ⟨l, by simp, hsame⟩
      rw [List.filterMap_cons_some (by rw [hfind]; rfl), List.map_cons, ih,
        List.filter_cons_of_pos (by simpa using hex)]

lemma mem_sharedColumns {p : String × String} :
    p ∈ sharedColumns left right ↔ p.2 ∈ right ∧ FirstNamed left p.2 p.1 := by
  obtain ⟨l, r⟩ := p
  simp only [sharedColumns, List.mem_filterMap, Option.map_eq_some_iff, Prod.mk.injEq,
    find?_sameColumn]
  constructor
  · rintro ⟨r', hr, l', hl, rfl, rfl⟩
    exact ⟨hr, hl⟩
  · rintro ⟨hr, hl⟩
    exact ⟨r, hr, l, hl, rfl, rfl⟩

/-- Taking away the spellings of the shared columns leaves those that are not shared: a column that
is spelled like a shared one has its name. -/
lemma filter_spelling_eq_unshared :
    (right.filter fun r => !(sharedColumns left right).any fun pair => pair.2 == r) =
      unshared left right := by
  apply List.filter_congr
  intro r hr
  have hspelled : (sharedColumns left right).any (fun pair => pair.2 == r) = true ↔
      ∃ l ∈ left, folded l = folded r := by
    calc (sharedColumns left right).any (fun pair => pair.2 == r) = true
        ↔ r ∈ (sharedColumns left right).map Prod.snd := by simp
      _ ↔ ∃ l ∈ left, folded l = folded r := by
        rw [map_snd_sharedColumns, List.mem_filter, decide_eq_true_eq]
        exact and_iff_right hr
  rw [Bool.eq_iff_iff, Bool.not_eq_true', ← Bool.not_eq_true, hspelled]
  simp

lemma length_unshared_add :
    (unshared left right).length + (sharedColumns left right).length = right.length := by
  have hshared : (sharedColumns left right).length =
      (right.filter fun r => ∃ l ∈ left, folded l = folded r).length := by
    rw [← map_snd_sharedColumns, List.length_map]
  have hunshared : unshared left right =
      right.filter fun r => !decide (∃ l ∈ left, folded l = folded r) := by
    apply List.filter_congr
    intro r _
    rw [← decide_not]
    simp
  rw [hshared, hunshared, Nat.add_comm]
  exact (List.length_eq_length_filter_add _).symm

lemma nodup_columns (hleft : (left.map folded).Nodup) (hright : (right.map folded).Nodup) :
    ((left ++ unshared left right).map folded).Nodup := by
  rw [List.map_append]
  apply hleft.append (hright.sublist (List.filter_sublist.map folded))
  intro name hname hname'
  obtain ⟨l, hl, rfl⟩ := List.mem_map.mp hname
  obtain ⟨r, hr, hsame⟩ := List.mem_map.mp hname'
  have hno : ∀ l ∈ left, folded l ≠ folded r := by simpa using (List.mem_filter.mp hr).2
  exact hno l hl hsame.symm

lemma nodup_sharedColumns (hright : (right.map folded).Nodup) :
    ((sharedColumns left right).map fun pair => folded pair.1).Nodup := by
  have hsame : ((sharedColumns left right).map fun pair => folded pair.1) =
      ((sharedColumns left right).map Prod.snd).map folded := by
    rw [List.map_map]
    apply List.map_congr_left
    intro pair hpair
    exact (mem_sharedColumns.mp hpair).2.1
  rw [hsame, map_snd_sharedColumns]
  exact hright.sublist (List.filter_sublist.map folded)

end

/-! ### The SQL -/

namespace Sql.Query

lemma joinColumns_eq {left right : List String} (h : left ≠ []) :
    joinColumns left right =
      ", ".intercalate (left.map (qualified "V1") ++ right.map (qualified "V2")) := by
  have hleft : left.map (qualified "V1") ≠ [] := by simpa using h
  unfold joinColumns qualifiedList leftAlias rightAlias
  cases right with
  | nil => simp
  | cons r right =>
    rw [String.intercalate_append_of_ne_nil hleft (by simp), String.append_assoc]
    rfl

lemma text_naturalJoin {left right : String} {ls rs : List String} (h : ls ≠ [])
    (shared : List (String × String)) :
    (naturalJoin left right ls rs shared).text =
      "SELECT " ++ ", ".intercalate (ls.map (qualified "V1") ++ rs.map (qualified "V2")) ++
        " FROM " ++ left ++ " AS V1, " ++ right ++ " AS V2 WHERE " ++
        " AND ".intercalate (shared.map (equality "V1" "V2")) := by
  have hleft : " AS V1, " = " AS " ++ leftAlias ++ ", " := by decide +kernel
  have hright : " AS V2 WHERE " = " AS " ++ rightAlias ++ " WHERE " := by decide +kernel
  have htext : (naturalJoin left right ls rs shared).text =
      "SELECT " ++ joinColumns ls rs ++ " FROM " ++ left ++ " AS " ++ leftAlias ++ ", " ++ right ++
        " AS " ++ rightAlias ++ " WHERE " ++
        " AND ".intercalate (shared.map (equality "V1" "V2")) := rfl
  rw [htext, joinColumns_eq h, hleft, hright]
  simp only [String.append_assoc]

end Sql.Query

namespace ViewTree

open Sql

lemma naturalJoin_eq (left right : String) (ls rs : List String) :
    naturalJoin left right ls rs =
      if sharedColumns ls rs = [] then .product left right
      else .naturalJoin left right ls (unshared ls rs) (sharedColumns ls rs) := by
  simp only [naturalJoin, List.isEmpty_iff, filter_spelling_eq_unshared]

lemma definition_naturalJoin {d : Dialect} {l r : ViewTree} {v : View} {left right : Schema}
    (hl : l.knownSchema = .ok left) (hr : r.knownSchema = .ok right) :
    (binary (.join none) l r v).definition d =
      .ok (naturalJoin l.view.name r.view.name left.columnNames right.columnNames).text := by
  rw [definition, query_eq]
  simp only [hl, hr]
  rfl

/-- **A natural join has each left column, and each right column whose name no left one has**; it
equates each other right column with the first left one of its name. Without any of those it is the
product. If the names on each side are different, so are those of the join, and no left column is
equated twice. -/
theorem natural_join_columns (d : Dialect) (l r : ViewTree) (v : View) (left right : Schema)
    (hl : l.knownSchema = .ok left) (hr : r.knownSchema = .ok right) :
    let ls := left.columnNames
    let rs := right.columnNames
    let shared := sharedColumns ls rs
    let rest := rs.filter fun c => ∀ b ∈ ls, folded b ≠ folded c
    let entries := ls.map (qualified "V1") ++ rest.map (qualified "V2")
    shared.map Prod.snd = rs.filter (fun c => ∃ b ∈ ls, folded b = folded c) ∧
      (∀ p ∈ shared, FirstNamed ls p.2 p.1) ∧
      (shared = [] → ∃ sql, (binary .cross l r v).definition d = .ok sql ∧
        (binary (.join none) l r v).definition d = .ok sql) ∧
      (shared ≠ [] → (binary (.join none) l r v).definition d =
        .ok ("SELECT " ++ ", ".intercalate entries ++ " FROM " ++ l.view.name ++ " AS V1, " ++
          r.view.name ++ " AS V2 WHERE " ++
          " AND ".intercalate (shared.map (equality "V1" "V2")))) ∧
      entries.length = left.arity + right.arity - shared.length ∧
      ((ls.map folded).Nodup → (rs.map folded).Nodup →
        ((ls ++ rest).map folded).Nodup ∧ (shared.map fun p => folded p.1).Nodup) := by
  intro ls rs shared rest entries
  have hdefinition := definition_naturalJoin (d := d) (v := v) hl hr
  refine ⟨map_snd_sharedColumns, fun p hp => (mem_sharedColumns.mp hp).2, ?_, ?_, ?_, ?_⟩
  · intro hnone
    exact ⟨_, rfl, by rw [hdefinition, naturalJoin_eq, if_pos hnone]⟩
  · intro hsome
    have hls : ls ≠ [] := by
      obtain ⟨p, hp⟩ := List.exists_mem_of_ne_nil _ hsome
      obtain ⟨-, -, before, after, hls, -⟩ := mem_sharedColumns.mp hp
      simp [hls]
    rw [hdefinition, naturalJoin_eq, if_neg hsome, Query.text_naturalJoin hls]
    rfl
  · have hparts : rest.length + shared.length = rs.length := length_unshared_add
    have hlength : entries.length = ls.length + rest.length := by simp [entries]
    have hleft : ls.length = left.arity := List.length_map _
    have hright : rs.length = right.arity := List.length_map _
    omega
  · exact fun hleft hright => ⟨nodup_columns hleft hright, nodup_sharedColumns hright⟩

/-- The schemas of two views that share a column, which they spell differently. -/
def keyed : Schema × Schema :=
  (⟨"RA_TMP_VIEW_1", [⟨"ID", "INTEGER"⟩, ⟨"x", "TEXT"⟩]⟩,
    ⟨"RA_TMP_VIEW_2", [⟨"y", "TEXT"⟩, ⟨"id", "INTEGER"⟩, ⟨"a:1", "REAL"⟩]⟩)

theorem keyed_join_columns :
    let l := relation "R" ⟨"RA_TMP_VIEW_1", .correct, some keyed.1⟩
    let r := relation "S" ⟨"RA_TMP_VIEW_2", .correct, some keyed.2⟩
    l.knownSchema = .ok keyed.1 ∧ r.knownSchema = .ok keyed.2 ∧
      (binary (.join none) l r ⟨"RA_TMP_VIEW_3", .unchecked, none⟩).definition .sqlite =
        .ok ("SELECT V1.\"ID\", V1.\"x\", V2.\"y\", V2.\"a:1\" FROM RA_TMP_VIEW_1 AS V1, " ++
          "RA_TMP_VIEW_2 AS V2 WHERE V1.\"ID\" = V2.\"id\"") ∧
      ((["ID", "x"] ++ ["y", "a:1"]).map folded).Nodup := by
  intro l r
  obtain ⟨-, -, -, hsql, -, hnodup⟩ := natural_join_columns .sqlite l r
    ⟨"RA_TMP_VIEW_3", .unchecked, none⟩ keyed.1 keyed.2 rfl rfl
  have hshared : sharedColumns keyed.1.columnNames keyed.2.columnNames ≠ [] := by decide +kernel
  have hdistinct := (hnodup (by decide +kernel) (by decide +kernel)).1
  exact ⟨rfl, rfl, (hsql hshared).trans (congrArg Except.ok (by decide +kernel)), hdistinct⟩

end ViewTree

end RelAlgebra

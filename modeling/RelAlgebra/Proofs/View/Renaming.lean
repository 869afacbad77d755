import RelAlgebra.Proofs.Sql.Quoting
import RelAlgebra.Proofs.Text.Trim
import RelAlgebra.Proofs.View.Generators

/-!
The two ways to rename the columns of a view.

Where a view may declare its columns, the new names are declared as they were written. Elsewhere
they are split at the commas, and each column is selected under the name in its place. A comma
inside a quoted name splits it too. So the two ways agree on all quoted names without a comma, and
with a comma in any of them the second way finds too many names and refuses to rename.
-/

namespace RelAlgebra

namespace Sql

/-! ### Splitting at commas -/

lemma splitColumns_append (as bs : String) :
    splitColumns (as ++ "," ++ bs) = splitColumns as ++ splitColumns bs := by
  simp [splitColumns, List.splitOn_append_cons_self]

lemma splitColumns_space (cs : String) : splitColumns (" " ++ cs) = splitColumns cs := by
  have htrim (entry : List Char) : Text.trim (' ' :: entry) = Text.trim entry := by
    rw [Text.trim, Text.trimStart_cons, if_pos (by decide), Text.trim]
  have hspace : (" " ++ cs).toList = ' ' :: cs.toList := by simp
  have hsplit : (' ' :: cs.toList).splitOn ',' =
      (cs.toList.splitOn ',').modifyHead (List.cons ' ') := by
    rw [List.splitOn_cons_eq_if_modifyHead, if_neg (by decide)]
  obtain ⟨entry, entries, hcs⟩ := List.exists_cons_of_ne_nil (List.splitOn_ne_nil ',' cs.toList)
  rw [splitColumns, splitColumns, hspace, hsplit, hcs, List.modifyHead_cons, List.map_cons, htrim,
    List.map_cons]

lemma splitColumns_intercalate {entries : List String} (h : entries ≠ []) :
    splitColumns (", ".intercalate entries) = entries.flatMap splitColumns := by
  have hseparator : ", " = "," ++ " " := by decide
  induction entries with
  | nil => exact absurd rfl h
  | cons entry entries ih =>
    cases entries with
    | nil => simp
    | cons next entries =>
      -- the blank after the comma is taken off the next entry
      rw [String.intercalate_cons_cons, hseparator, ← String.append_assoc, String.append_assoc,
        splitColumns_append, splitColumns_space, ← hseparator, ih (by simp)]
      rfl

lemma length_splitColumns (cs : String) : (splitColumns cs).length = cs.toList.count ',' + 1 := by
  rw [splitColumns, List.length_map]
  induction cs.toList with
  | nil => simp
  | cons c cs ih =>
    rw [List.splitOn_cons_eq_if_modifyHead, List.count_cons]
    split_ifs with hc
    · rw [List.length_cons, ih]
    · rw [List.length_modifyHead, ih]

/-! ### Quoted names -/

lemma count_comma_quote (name : String) :
    (quote name).toList.count ',' = name.toList.count ',' := by
  have hchars (cs : List Char) : (cs.flatMap quoteChar).count ',' = cs.count ',' := by
    induction cs with
    | nil => rfl
    | cons c cs ih =>
      rw [List.flatMap_cons, List.count_append, ih, List.count_cons, Nat.add_comm]
      by_cases hc : c = '"'
      · subst hc; rfl
      · rw [quoteChar, if_neg hc, List.count_singleton]
  simp [toList_quote, hchars]

lemma trimmed_quote (name : String) : Text.Trimmed (quote name).toList := by
  have hquote : Text.isBlank '"' = false := by decide
  rw [toList_quote]
  constructor
  · rintro c ⟨⟩
    exact hquote
  · intro c hc
    rw [← List.cons_append, List.getLast?_concat] at hc
    cases hc
    exact hquote

lemma splitColumns_quote {name : String} (h : ',' ∉ name.toList) :
    splitColumns (quote name) = [quote name] := by
  have hquote : ',' ∉ (quote name).toList := by
    rw [← List.count_eq_zero, count_comma_quote, List.count_eq_zero]
    exact h
  rw [splitColumns, List.splitOn_eq_singleton hquote, List.map_singleton,
    Text.trim_eq_self (trimmed_quote name), String.ofList_toList]

section

variable {names : List String}

lemma splitColumns_names (hne : names ≠ []) (h : ∀ name ∈ names, ',' ∉ name.toList) :
    splitColumns (", ".intercalate (names.map quote)) = names.map quote := by
  rw [splitColumns_intercalate (by simpa using hne), List.flatMap_map,
    List.flatMap_congr fun name hname => splitColumns_quote (h name hname), List.map_eq_flatMap]

lemma length_splitColumns_names (hne : names ≠ []) :
    (splitColumns (", ".intercalate (names.map quote))).length =
      names.length + (names.map fun name => name.toList.count ',').sum := by
  rw [splitColumns_intercalate (by simpa using hne), List.length_flatMap, List.map_map]
  clear hne
  induction names with
  | nil => rfl
  | cons name names ih =>
    simp only [List.map_cons, List.sum_cons, List.length_cons, Function.comp_apply,
      length_splitColumns, count_comma_quote] at ih ⊢
    omega

end

end Sql

namespace ViewTree

open Sql

variable {o : ViewTree} {v : View} {columns : String}

lemma renameStatement_declared {d : Dialect} (hd : d.hasViewColumns = true) :
    (unary (.rename columns) o v).renameStatement d =
      .ok ("CREATE VIEW " ++ v.name ++ "(" ++ columns ++ ") AS SELECT * FROM " ++ o.view.name) := by
  have hstatement : (unary (.rename columns) o v).renameStatement d =
      .ok (CreateView.mk v.name (some columns) (.all o.view.name)).text := by
    simp [renameStatement, renameView, renameQuery, renamed, hd, Except.map, view]
  have htext : (CreateView.mk v.name (some columns) (.all o.view.name)).text =
      "CREATE VIEW " ++ v.name ++ ("(" ++ columns ++ ")") ++ " AS " ++
        ("SELECT * FROM " ++ o.view.name) := rfl
  have hliteral : ") AS SELECT * FROM " = ")" ++ " AS " ++ "SELECT * FROM " := by decide +kernel
  rw [hstatement, htext, hliteral]
  simp only [String.append_assoc]

lemma query_aliased {schema : Schema} (ho : o.knownSchema = .ok schema) :
    (unary (.rename columns) o v).query .sqlite =
      if schema.arity = (splitColumns columns).length then
        .ok (.aliased o.view.name (schema.columnNames.zip (splitColumns columns)))
      else .error ((unary (.rename columns) o v).refuse
        "renaming an incorrect number of columns" none) := by
  rw [query_eq]
  simp only [renamed, ho]
  rfl

lemma renameStatement_aliased {schema : Schema} (ho : o.knownSchema = .ok schema) :
    (unary (.rename columns) o v).renameStatement .sqlite =
      if schema.arity = (splitColumns columns).length then
        .ok (CreateView.mk v.name none (.aliased o.view.name
          (schema.columnNames.zip (splitColumns columns)))).text
      else .error ((unary (.rename columns) o v).refuse
        "renaming an incorrect number of columns" none) := by
  have hview : (unary (.rename columns) o v).renameView .sqlite =
      (unary (.rename columns) o v).createView .sqlite := rfl
  rw [renameStatement, hview, createView_eq, query_aliased ho]
  split <;> rfl

lemma text_aliased (names : List String) (schema : Schema) :
    (CreateView.mk v.name none (.aliased o.view.name
        (schema.columnNames.zip (names.map quote)))).text =
      "CREATE VIEW " ++ v.name ++ " AS SELECT " ++
        ", ".intercalate (List.zipWith (fun column name => quote column ++ " AS " ++ quote name)
          schema.columnNames names) ++ " FROM " ++ o.view.name := by
  have hcolumns : (schema.columnNames.zip (names.map quote)).map Query.aliasedColumn =
      List.zipWith (fun column name => quote column ++ " AS " ++ quote name)
        schema.columnNames names := by
    rw [List.zip, List.map_zipWith, List.zipWith_map_right]
    rfl
  have htext : (CreateView.mk v.name none (.aliased o.view.name
      (schema.columnNames.zip (names.map quote)))).text =
      "CREATE VIEW " ++ v.name ++ "" ++ " AS " ++ ("SELECT " ++ ", ".intercalate
        ((schema.columnNames.zip (names.map quote)).map Query.aliasedColumn) ++ " FROM " ++
          o.view.name) := rfl
  have hliteral : " AS SELECT " = "" ++ " AS " ++ "SELECT " := by decide +kernel
  rw [htext, hcolumns, hliteral]
  simp only [String.append_assoc]

/-- **Both ways to rename give each column the name in its place, unless a name has a comma.** Where
views may declare their columns, the names are declared in their order. Elsewhere each column is
selected under the name in its place if no name has a comma, and otherwise nothing is renamed. -/
theorem rename_agrees_iff (d : Dialect) (hd : d.hasViewColumns = true) (o : ViewTree) (v : View)
    (schema : Schema) (ho : o.knownSchema = .ok schema) (names : List String) (hne : names ≠ [])
    (hlength : names.length = schema.arity) :
    let columns := ", ".intercalate (names.map quote)
    let t := unary (.rename columns) o v
    let aliases := List.zipWith (fun column name => quote column ++ " AS " ++ quote name)
      schema.columnNames names
    t.renameStatement d =
        .ok ("CREATE VIEW " ++ v.name ++ "(" ++ columns ++ ") AS SELECT * FROM " ++ o.view.name) ∧
      (t.renameStatement .sqlite = .ok ("CREATE VIEW " ++ v.name ++ " AS SELECT " ++
          ", ".intercalate aliases ++ " FROM " ++ o.view.name) ↔
        ∀ name ∈ names, ',' ∉ name.toList) ∧
      (t.renameStatement .sqlite =
          .error (t.refuse "renaming an incorrect number of columns" none) ↔
        ∃ name ∈ names, ',' ∈ name.toList) := by
  intro columns t aliases
  have hcount : (splitColumns columns).length = _ := length_splitColumns_names hne
  have hstatement : t.renameStatement .sqlite = _ := renameStatement_aliased ho
  have hagree (h : ∀ name ∈ names, ',' ∉ name.toList) :
      t.renameStatement .sqlite = .ok ("CREATE VIEW " ++ v.name ++ " AS SELECT " ++
        ", ".intercalate aliases ++ " FROM " ++ o.view.name) := by
    have hsplit : splitColumns columns = names.map quote := splitColumns_names hne h
    rw [hstatement, hsplit, List.length_map, if_pos hlength.symm, text_aliased]
  have hrefuse (h : ∃ name ∈ names, ',' ∈ name.toList) :
      t.renameStatement .sqlite =
        .error (t.refuse "renaming an incorrect number of columns" none) := by
    obtain ⟨name, hname, hcomma⟩ := h
    -- one comma is enough to make more entries than columns
    have hpositive : 0 < name.toList.count ',' := List.count_pos_iff.mpr hcomma
    have hsum : name.toList.count ',' ≤ (names.map fun name => name.toList.count ',').sum :=
      List.single_le_sum (fun _ _ => Nat.zero_le _) _ (List.mem_map_of_mem hname)
    have hdiffer : schema.arity ≠ (splitColumns columns).length := by omega
    rw [hstatement, if_neg hdiffer]
  refine ⟨renameStatement_declared hd, ⟨fun h name hname hcomma => ?_, hagree⟩,
    ⟨fun h => ?_, hrefuse⟩⟩
  · rw [hrefuse ⟨name, hname, hcomma⟩] at h
    cases h
  · by_contra hno
    push Not at hno
    rw [hagree hno] at h
    cases h

def twoColumns : ViewTree :=
  .relation "R" ⟨"RA_TMP_VIEW_1", .correct, some ⟨"RA_TMP_VIEW_1", [⟨"a", "TEXT"⟩, ⟨"b", "TEXT"⟩]⟩⟩

theorem odd_names_agree :
    let t := unary (.rename "\" x \"\" AS \", \"\"") twoColumns { name := "RA_TMP_VIEW_2" }
    t.renameStatement .postgresql = .ok ("CREATE VIEW RA_TMP_VIEW_2(\" x \"\" AS \", \"\") AS " ++
        "SELECT * FROM RA_TMP_VIEW_1") ∧
      t.renameStatement .sqlite = .ok ("CREATE VIEW RA_TMP_VIEW_2 AS SELECT \"a\" AS " ++
        "\" x \"\" AS \", \"b\" AS \"\" FROM RA_TMP_VIEW_1") := by
  obtain ⟨hdeclared, haliased, -⟩ := rename_agrees_iff .postgresql rfl twoColumns
    { name := "RA_TMP_VIEW_2" } _ rfl [" x \" AS ", ""] (by decide) rfl
  have hnames : ", ".intercalate ([" x \" AS ", ""].map quote) = "\" x \"\" AS \", \"\"" := by
    decide +kernel
  rw [hnames] at hdeclared haliased
  refine ⟨hdeclared.trans (congrArg Except.ok (by decide +kernel)), ?_⟩
  exact (haliased.mpr (by decide +kernel)).trans (congrArg Except.ok (by decide +kernel))

/-- A name with a comma, for the one column that there is. -/
theorem comma_name_refused :
    let o := ViewTree.relation "R"
      ⟨"RA_TMP_VIEW_1", .correct, some ⟨"RA_TMP_VIEW_1", [⟨"c", "INTEGER"⟩]⟩⟩
    let t := unary (.rename (quote "x,y")) o { name := "RA_TMP_VIEW_2" }
    t.renameStatement .postgresql =
        .ok "CREATE VIEW RA_TMP_VIEW_2(\"x,y\") AS SELECT * FROM RA_TMP_VIEW_1" ∧
      t.renameStatement .sqlite =
        .error (t.refuse "renaming an incorrect number of columns" none) := by
  decide +kernel

end ViewTree

end RelAlgebra

import RelAlgebra.Proofs.View.Renaming

/-!
Lists of columns as they are written.

A list is split at its commas, and the blanks around each entry are taken off. So names without a
comma are found again whatever blanks stand around them, and how many entries there are depends on
the commas alone. Where views cannot declare their columns, that number decides whether the columns
of a view can be renamed.
-/

namespace RelAlgebra

namespace Sql

/-- A name in a list of columns, with the blanks around it. -/
structure ListedName where
  before : String
  name : String
  after : String
  blank_before : Text.allBlank before.toList = true
  blank_after : Text.allBlank after.toList = true
  no_comma : ',' ∉ name.toList
  trimmed : Text.Trimmed name.toList

namespace ListedName

def text (n : ListedName) : String := n.before ++ n.name ++ n.after

lemma toList_text (n : ListedName) :
    n.text.toList = n.before.toList ++ n.name.toList ++ n.after.toList := by
  rw [text, String.toList_append, String.toList_append]

lemma no_comma_text (n : ListedName) : ',' ∉ n.text.toList := by
  have hblank {cs : List Char} (h : Text.allBlank cs = true) : ',' ∉ cs := fun hcomma =>
    absurd (List.all_eq_true.mp h ',' hcomma) (by decide)
  rw [toList_text, List.mem_append, List.mem_append]
  rintro ((hbefore | hname) | hafter)
  · exact hblank n.blank_before hbefore
  · exact n.no_comma hname
  · exact hblank n.blank_after hafter

lemma trim_text (n : ListedName) : Text.trim n.text.toList = n.name.toList := by
  rw [toList_text]
  exact Text.trim_padded (List.all_eq_true.mp n.blank_before) n.trimmed
    (List.all_eq_true.mp n.blank_after)

end ListedName

lemma splitColumns_listed {names : List ListedName} (hne : names ≠ []) :
    splitColumns (",".intercalate (names.map ListedName.text)) = names.map ListedName.name := by
  have hcommas : ∀ entry ∈ names.map (String.toList ∘ ListedName.text), ',' ∉ entry := by
    intro entry hentry
    obtain ⟨n, -, rfl⟩ := List.mem_map.mp hentry
    exact n.no_comma_text
  have hseparator : ",".toList = [','] := by decide
  have hsplit := List.splitOn_intercalate ',' hcommas (by simpa using hne)
  rw [splitColumns, String.toList_intercalate, List.map_map, hseparator, hsplit, List.map_map]
  refine List.map_congr_left fun n _ => ?_
  rw [Function.comp_apply, Function.comp_apply, n.trim_text, String.ofList_toList]

lemma trimmed_of_mem_splitColumns {columns entry : String} (h : entry ∈ splitColumns columns) :
    Text.Trimmed entry.toList := by
  obtain ⟨cs, -, rfl⟩ := List.mem_map.mp h
  rw [String.toList_ofList]
  exact Text.trimmed_trim cs

end Sql

namespace ViewTree

open Sql

variable {o : ViewTree} {v : View} {columns : String} {schema : Schema}

lemma knownSchema_of_correct (hstatus : o.view.status = .correct)
    (hschema : o.view.schema = some schema) : o.knownSchema = .ok schema := by
  rw [knownSchema, hstatus, hschema]

lemma definitionAs_rename (ho : o.knownSchema = .ok schema) :
    (unary (.rename columns) o v).definitionAs .rename .sqlite =
      if schema.arity = columns.toList.count ',' + 1 then
        .ok (Query.aliased o.view.name (schema.columnNames.zip (splitColumns columns))).text
      else .error (.validation v.name (unary (.rename columns) o v).label
        "renaming an incorrect number of columns" none) := by
  have hquery : (unary (.rename columns) o v).generate .rename .sqlite =
      (unary (.rename columns) o v).query .sqlite := rfl
  rw [definitionAs, hquery, query_aliased ho, length_splitColumns]
  split <;> rfl

/-- **Names are found again in a list of them, and a list has an entry more than commas.** So the
commas decide whether the columns of a view can be renamed one by one. -/
theorem commas_decide_rename (columns : String) :
    (∀ names : List ListedName, names ≠ [] →
      splitColumns (",".intercalate (names.map ListedName.text)) = names.map ListedName.name) ∧
    (splitColumns columns).length = columns.toList.count ',' + 1 ∧
    (∀ entry ∈ splitColumns columns, Text.Trimmed entry.toList) ∧
    ∀ (o : ViewTree) (v : View) (schema : Schema), o.view.status = .correct →
      o.view.schema = some schema →
      let t := unary (.rename columns) o v
      (t.definitionAs .rename .sqlite = .error (.validation v.name t.label
          "renaming an incorrect number of columns" none) ↔
        schema.arity ≠ columns.toList.count ',' + 1) ∧
      (t.definitionAs .rename .sqlite = .ok (Query.aliased o.view.name
          (schema.columnNames.zip (splitColumns columns))).text ↔
        schema.arity = columns.toList.count ',' + 1) := by
  refine ⟨fun names => splitColumns_listed, length_splitColumns columns,
    fun entry => trimmed_of_mem_splitColumns, ?_⟩
  intro o v schema hstatus hschema t
  have hdefinition : t.definitionAs .rename .sqlite = _ :=
    definitionAs_rename (knownSchema_of_correct hstatus hschema)
  by_cases hcount : schema.arity = columns.toList.count ',' + 1
  · rw [hdefinition, if_pos hcount]
    simp [hcount]
  · rw [hdefinition, if_neg hcount]
    simp [hcount, t]

/-- Empty entries count: there are three names for two columns. -/
theorem empty_entries_refused :
    let t := unary (.rename "\u3000, x y\t,") twoColumns { name := "RA_TMP_VIEW_2" }
    splitColumns "\u3000, x y\t," = ["", "x y", ""] ∧
      t.definitionAs .rename .sqlite = .error (.validation "RA_TMP_VIEW_2" t.label
        "renaming an incorrect number of columns" none) := by
  let names : List ListedName :=
    [⟨"\u3000", "", "", by decide, by decide, by decide, by decide⟩,
      ⟨" ", "x y", "\t", by decide, by decide, by decide, by decide⟩,
      ⟨"", "", "", by decide, by decide, by decide, by decide⟩]
  have htext : ",".intercalate (names.map ListedName.text) = "\u3000, x y\t," := by
    decide +kernel
  obtain ⟨hsplit, -, -, hrename⟩ := commas_decide_rename "\u3000, x y\t,"
  have hnames := hsplit names (List.cons_ne_nil _ _)
  rw [htext] at hnames
  have hrefuse := (hrename twoColumns { name := "RA_TMP_VIEW_2" } _ rfl rfl).1
  exact ⟨hnames, hrefuse.mpr (by decide +kernel)⟩

end ViewTree

end RelAlgebra

import Mathlib
import RelAlgebra.Sql.Ident

/-!
Quoted names in SQL text, and reading them back.

A quoted name ends at the first quote that is not written twice, whatever the name holds. So before
any text that does not begin with a quote the name is read back, and just that text is left. Lists
of columns keep this: no name reaches beyond its own quotes, and different columns never make the
same text.
-/

namespace RelAlgebra.Sql

/-! ### One name -/

lemma toList_quote (name : String) :
    (quote name).toList = '"' :: (name.toList.flatMap quoteChar ++ ['"']) := by
  simp [quote]

lemma readName_quoted (name : List Char) {rest : List Char} (h : rest.head? ≠ some '"') :
    readName (name.flatMap quoteChar ++ '"' :: rest) = some (name, rest) := by
  induction name with
  | nil =>
    rw [List.flatMap_nil, List.nil_append, readName]
    rintro cs rfl
    exact h rfl
  | cons c name ih =>
    by_cases hc : c = '"'
    · simp [quoteChar, hc, readName, ih]
    · simp [quoteChar, hc, readName, ih]

lemma eq_quoted_of_readName {cs name rest : List Char} (h : readName cs = some (name, rest)) :
    cs = name.flatMap quoteChar ++ '"' :: rest ∧ rest.head? ≠ some '"' := by
  fun_induction readName cs generalizing name with
  | case1 cs ih =>
    -- two quotes stand for one, and the name goes on
    obtain ⟨⟨name', rest'⟩, hread, he⟩ := Option.map_eq_some_iff.mp h
    cases he
    obtain ⟨rfl, hrest⟩ := ih hread
    exact ⟨by simp [quoteChar], hrest⟩
  | case2 cs hlone =>
    cases h
    refine ⟨rfl, fun hhead => ?_⟩
    obtain ⟨cs', rfl⟩ := List.head?_eq_some_iff.mp hhead
    exact hlone cs' rfl
  | case3 c cs _ hc ih =>
    obtain ⟨⟨name', rest'⟩, hread, he⟩ := Option.map_eq_some_iff.mp h
    cases he
    obtain ⟨rfl, hrest⟩ := ih hread
    exact ⟨by simp [quoteChar, if_neg hc], hrest⟩
  | case4 => cases h

lemma readQuoted_eq_some_iff {cs rest : List Char} {name : String} :
    readQuoted cs = some (name, rest) ↔
      cs = (quote name).toList ++ rest ∧ rest.head? ≠ some '"' := by
  have hquote : (quote name).toList ++ rest =
      '"' :: (name.toList.flatMap quoteChar ++ '"' :: rest) := by
    rw [toList_quote, List.cons_append, List.append_assoc, List.singleton_append]
  rw [hquote]
  constructor
  · intro h
    rw [readQuoted.eq_def] at h
    split at h
    · next cs =>
      obtain ⟨⟨text, rest'⟩, hread, he⟩ := Option.map_eq_some_iff.mp h
      cases he
      obtain ⟨rfl, hrest⟩ := eq_quoted_of_readName hread
      exact ⟨by rw [String.toList_ofList], hrest⟩
    · cases h
  · rintro ⟨rfl, hrest⟩
    rw [readQuoted, readName_quoted _ hrest, Option.map_some]
    simp only [String.ofList_toList]

/-! ### Lists of names -/

/-- What is written can be told from what follows it, if that does not begin with a quote. -/
def Recovered {α : Type} (write : α → String) : Prop :=
  ∀ ⦃a b : α⦄ ⦃s t : List Char⦄, s.head? ≠ some '"' → t.head? ≠ some '"' →
    (write a).toList ++ s = (write b).toList ++ t → a = b ∧ s = t

lemma recovered_quote : Recovered quote := by
  intro a b s t hs ht h
  have ha : readQuoted ((quote a).toList ++ s) = some (a, s) :=
    readQuoted_eq_some_iff.mpr ⟨rfl, hs⟩
  have hb : readQuoted ((quote b).toList ++ t) = some (b, t) :=
    readQuoted_eq_some_iff.mpr ⟨rfl, ht⟩
  rw [h, hb] at ha
  cases ha
  exact ⟨rfl, rfl⟩

/-- A text that is not empty and does not begin with a quote. -/
def Separates (text : String) : Prop := ∃ c ∈ text.toList.head?, c ≠ '"'

lemma Separates.head?_append {text : String} (h : Separates text) (cs : List Char) :
    (text.toList ++ cs).head? ≠ some '"' := by
  obtain ⟨c, hc, hne⟩ := h
  rw [List.head?_append, Option.mem_def.mp hc]
  simpa using hne

namespace Recovered

variable {α β : Type} {write : α → String} {separator : String}

lemma after (h : Recovered write) (first : String) : Recovered fun a => first ++ write a := by
  intro a b s t hs ht heq
  simp only [String.toList_append, List.append_assoc, List.append_cancel_left_eq] at heq
  exact h hs ht heq

lemma pair (h : Recovered write) (hsep : Separates separator) {write' : β → String}
    (h' : Recovered write') : Recovered fun p : α × β => write p.1 ++ separator ++ write' p.2 := by
  rintro ⟨a, a'⟩ ⟨b, b'⟩ s t hs ht heq
  simp only [String.toList_append, List.append_assoc] at heq
  obtain ⟨rfl, hrest⟩ := h (hsep.head?_append _) (hsep.head?_append _) heq
  rw [List.append_cancel_left_eq] at hrest
  obtain ⟨rfl, rfl⟩ := h' hs ht hrest
  exact ⟨rfl, rfl⟩

/-- The text of the entries after the first one. -/
def later (separator : String) (write : α → String) (as : List α) : List Char :=
  as.flatMap fun a => separator.toList ++ (write a).toList

lemma head?_later (hsep : Separates separator) (as : List α) :
    (later separator write as).head? ≠ some '"' := by
  cases as with
  | nil => exact nofun
  | cons a as =>
    rw [later, List.flatMap_cons, List.append_assoc]
    exact hsep.head?_append _

lemma later_injective (h : Recovered write) (hsep : Separates separator) :
    Function.Injective (later separator write) := by
  have hcons (a : α) (as : List α) : later separator write (a :: as) ≠ [] := by
    obtain ⟨c, hc, -⟩ := hsep
    have hne : separator.toList ≠ [] := List.ne_nil_of_mem (List.mem_of_mem_head? hc)
    simp [later, hne]
  intro as bs heq
  induction as generalizing bs with
  | nil =>
    cases bs with
    | nil => rfl
    | cons b bs => exact absurd heq.symm (hcons b bs)
  | cons a as ih =>
    cases bs with
    | nil => exact absurd heq (hcons a as)
    | cons b bs =>
      simp only [later, List.flatMap_cons, List.append_assoc, List.append_cancel_left_eq] at heq
      obtain ⟨rfl, hrest⟩ := h (head?_later hsep as) (head?_later hsep bs) heq
      rw [ih hrest]

lemma toList_intercalate (a : α) (as : List α) :
    (separator.intercalate ((a :: as).map write)).toList =
      (write a).toList ++ later separator write as := by
  induction as generalizing a with
  | nil => simp [later]
  | cons b as ih =>
    rw [List.map_cons, List.map_cons, String.intercalate_cons_cons, ← List.map_cons,
      String.toList_append, ih, String.toList_append, List.append_assoc]
    simp [later]

lemma intercalate_injective (h : Recovered write) (hne : ∀ a, write a ≠ "")
    (hsep : Separates separator) :
    Function.Injective fun as : List α => separator.intercalate (as.map write) := by
  have hsome (a : α) (as : List α) : separator.intercalate ((a :: as).map write) ≠ "" := by
    intro hempty
    have htext := congrArg String.toList hempty
    rw [toList_intercalate] at htext
    exact hne a (String.toList_eq_nil_iff.mp (List.append_eq_nil_iff.mp htext).1)
  intro as bs heq
  -- only the empty list has an empty text; elsewhere the first entry is read before the others
  rcases as with _ | ⟨a, as⟩ <;> rcases bs with _ | ⟨b, bs⟩
  · rfl
  · exact absurd heq.symm (hsome b bs)
  · exact absurd heq (hsome a as)
  · have htext := congrArg String.toList heq
    rw [toList_intercalate, toList_intercalate] at htext
    obtain ⟨rfl, hrest⟩ := h (head?_later hsep as) (head?_later hsep bs) htext
    rw [h.later_injective hsep hrest]

end Recovered

lemma recovered_qualified (relation : String) : Recovered (qualified relation) :=
  recovered_quote.after (relation ++ ".")

lemma recovered_equality (left right : String) : Recovered (equality left right) :=
  (recovered_qualified left).pair ⟨' ', rfl, by decide⟩ (recovered_qualified right)

/-- **No name breaks out of a list of columns.** A quoted name is read exactly where it was written,
before a text that does not begin with a quote. So different columns of a relation never make the
same list, and different pairs of columns never the same condition. -/
theorem columns_recovered (relation left right : String) :
    (∀ (name : String) (rest text : List Char), readQuoted text = some (name, rest) ↔
        text = (quote name).toList ++ rest ∧ rest.head? ≠ some '"') ∧
      Function.Injective (qualifiedList relation) ∧
      Function.Injective (equalities left right) := by
  have hcolumn (column : String) : qualified relation column ≠ "" := by simp [qualified]
  have hpair (pair : String × String) : equality left right pair ≠ "" := by
    simp [equality, qualified]
  refine ⟨fun name rest text => readQuoted_eq_some_iff, ?_, ?_⟩
  · exact (recovered_qualified relation).intercalate_injective hcolumn ⟨',', rfl, by decide⟩
  · exact (recovered_equality left right).intercalate_injective hpair ⟨' ', rfl, by decide⟩

example : readQuoted "\"a\"\", V.\"\"b\" = c".toList = some ("a\", V.\"b", " = c".toList) := by
  decide +kernel

end RelAlgebra.Sql

import RelAlgebra.Proofs.Token.Reached
import RelAlgebra.Statement.Cut
import RelAlgebra.Statement.Parser

/-!
Cutting a text into statements against reading its tokens.

Where tokens can be read off a text, none of its semicolons stands outside all braces and all its
braces are closed. So a semicolon put after the text is where the statement ends.
-/

namespace RelAlgebra

namespace Statement

lemma cutFrom_cons_eq_none {n : Nesting} {c : Char} {cs : List Char} :
    cutFrom n (c :: cs) = none ↔ ¬ (c = ';' ∧ n = .outside) ∧ cutFrom (n.step c) cs = none := by
  rw [cutFrom]
  split_ifs with h
  · simp [h]
  · simp [h]

lemma cutFrom_append {n : Nesting} {w cs : List Char} (h : cutFrom n w = none) :
    cutFrom n (w ++ cs) = (cutFrom (n.run w) cs).map fun (text, rest) => (w ++ text, rest) := by
  induction w generalizing n with
  | nil => simp
  | cons c w ih =>
    obtain ⟨hc, hw⟩ := cutFrom_cons_eq_none.mp h
    rw [List.cons_append, cutFrom, if_neg hc, ih hw, Option.map_map]
    rfl

/-- A statement is cut off at a semicolon after a text that ends outside all braces, with none
before it. -/
lemma cutFrom_eq_some_iff {n : Nesting} {cs text rest : List Char} :
    cutFrom n cs = some (text, rest) ↔
      cs = text ++ ';' :: rest ∧ cutFrom n text = none ∧ n.run text = .outside := by
  constructor
  · intro h
    induction cs generalizing n text with
    | nil => cases h
    | cons c cs ih =>
      rw [cutFrom] at h
      split_ifs at h with hc
      · obtain ⟨rfl, rfl⟩ := hc
        cases h
        exact ⟨rfl, rfl, rfl⟩
      · obtain ⟨⟨text', rest'⟩, hcs, he⟩ := Option.map_eq_some_iff.mp h
        cases he
        obtain ⟨rfl, hnone, hrun⟩ := ih hcs
        exact ⟨rfl, cutFrom_cons_eq_none.mpr ⟨hc, hnone⟩, hrun⟩
  · rintro ⟨rfl, hnone, hrun⟩
    rw [cutFrom_append hnone, hrun, cutFrom, if_pos ⟨rfl, rfl⟩]
    simp

/-- No statement ends in the text, and the text ends outside all braces. -/
def Unbroken (cs : List Char) : Prop :=
  cutFrom .outside cs = none ∧ Nesting.outside.run cs = .outside

instance (cs : List Char) : Decidable (Unbroken cs) := inferInstanceAs (Decidable (_ ∧ _))

lemma unbroken_nil : Unbroken [] := ⟨rfl, rfl⟩

lemma Unbroken.append {as bs : List Char} (ha : Unbroken as) (hb : Unbroken bs) :
    Unbroken (as ++ bs) := by
  constructor
  · rw [cutFrom_append ha.1, ha.2, hb.1]
    rfl
  · rw [Nesting.run_append, ha.2, hb.2]

lemma cut_eq_some_iff {cs text rest : List Char} :
    cut cs = some (text, rest) ↔ cs = text ++ ';' :: rest ∧ Unbroken text :=
  cutFrom_eq_some_iff

lemma Unbroken.cut_eq {cs : List Char} (h : Unbroken cs) (rest : List Char) :
    cut (cs ++ ';' :: rest) = some (cs, rest) := cut_eq_some_iff.mpr ⟨rfl, h⟩

lemma cutAll_of_cut {cs text rest : List Char} (h : cut cs = some (text, rest)) :
    cutAll cs = (text :: (cutAll rest).1, (cutAll rest).2) := by
  rw [cutAll]
  split
  · simp_all
  · next h' =>
    rw [h] at h'
    cases h'
    rfl

/-! ### The texts of tokens -/

lemma unbroken_of_class {p : Char → Bool} (hp : p '{' = false ∧ p '}' = false ∧ p ';' = false)
    {cs : List Char} (h : ∀ c ∈ cs, p c = true) : Unbroken cs := by
  induction cs with
  | nil => exact unbroken_nil
  | cons c cs ih =>
    rw [List.forall_mem_cons] at h
    have hstep : Nesting.outside.step c = .outside := by
      simp [Nesting.step, Nesting.outside, Text.ne_of_class h.1 hp.1, Text.ne_of_class h.1 hp.2.1]
    have hc : Unbroken [c] := by
      refine ⟨cutFrom_cons_eq_none.mpr ⟨?_, rfl⟩, hstep⟩
      rintro ⟨rfl, -⟩
      exact Text.ne_of_class h.1 hp.2.2 rfl
    exact hc.append (ih h.2)

lemma cutFrom_of_within {n : Nesting} {cs : List Char} (h : n.Within cs) :
    cutFrom n cs = none := by
  induction cs generalizing n with
  | nil => rfl
  | cons c cs ih =>
    obtain ⟨hn, hcs⟩ := Nesting.within_cons.mp h
    refine cutFrom_cons_eq_none.mpr ⟨?_, ih hcs⟩
    rintro ⟨-, rfl⟩
    exact hn rfl

lemma unbroken_braces {body : List Char} (h : Lexer.Enclosed body) :
    Unbroken ('{' :: body ++ ['}']) := by
  constructor
  · refine cutFrom_cons_eq_none.mpr ⟨by simp, ?_⟩
    change cutFrom .opened (body ++ ['}']) = none
    rw [cutFrom_append (cutFrom_of_within h.1), h.2]
    rfl
  · change Nesting.opened.run (body ++ ['}']) = .outside
    rw [Nesting.run_append, h.2]
    decide

end Statement

namespace Lexer

open Statement

lemma Spells.unbroken {t : Token} {w rest : List Char} (h : Spells t w rest) : Unbroken w := by
  have hbackslash : Unbroken ['\\'] := by decide
  have hunderscore : Unbroken ['_'] := by decide
  have hword {word : List Char} (h : ∀ c ∈ word, c.isAlpha = true) : Unbroken ('\\' :: word) :=
    hbackslash.append (unbroken_of_class (by decide) h)
  cases h with
  | lparen => decide
  | rparen => decide
  | ident _ hname => exact unbroken_of_class (by decide) hname
  | plain hw => exact hword hw
  | @parameter _ _ word body _ hw _ hbody =>
    have := (hword hw).append (hunderscore.append (unbroken_braces hbody))
    simpa using this

lemma Reaches.unbroken {offset : Nat} {ts : List Lexeme} {w rest : List Char}
    (h : Reaches offset ts w rest) : Unbroken w := by
  induction h with
  | nil => exact unbroken_nil
  | @blank _ _ c _ _ hc _ ih =>
    have hblank : Unbroken [c] :=
      unbroken_of_class (p := Text.isBlank) (by decide) (by simpa using hc)
    exact hblank.append ih
  | token hw _ ih => exact hw.unbroken.append ih

lemma Layout.unbroken {offset : Nat} {ts : List Lexeme} {cs : List Char}
    (h : Layout offset ts cs) : Unbroken cs := h.reaches.unbroken

end Lexer

namespace Statement

/-- **A statement ends at the semicolon put after a text that can be read.** -/
theorem end_after_lexed (s t : String)
    (h : (∃ ts, Lexer.lex s.toList = .ok ts) ∨ ∃ st, Statement.parse s = .ok st) :
    Statement.end? (s ++ ";" ++ t).toList = some (Text.width s.toList) ∧
      cut (s ++ ";" ++ t).toList = some (s.toList, t.toList) ∧
      cutAll (s ++ ";" ++ t).toList = (s.toList :: (cutAll t.toList).1, (cutAll t.toList).2) := by
  have hlex : ∃ ts, Lexer.lex s.toList = .ok ts := by
    rcases h with h | ⟨st, hst⟩
    · exact h
    · obtain ⟨ts, hts, -⟩ := Except.bind_eq_ok_iff.mp hst
      exact ⟨ts, hts⟩
  obtain ⟨ts, hts⟩ := hlex
  have htext : (s ++ ";" ++ t).toList = s.toList ++ ';' :: t.toList := by simp
  have hcut := (Lexer.lex_eq_ok_iff.mp hts).unbroken.cut_eq t.toList
  rw [htext]
  exact ⟨by rw [end?, hcut]; rfl, hcut, cutAll_of_cut hcut⟩

/-- Semicolons, braces and quotes in a parameter. -/
def nested : String := "\\select_\x7b a = ';\x7d' or \x7b\";\";\x7d \x7d R"

theorem end_after_nested :
    Statement.parse nested =
        .ok (.expr (.unary (.select "a = ';\x7d' or \x7b\";\";\x7d") (.relation "R"))) ∧
      Statement.end? (nested ++ ";" ++ "\\quit; \x7b';").toList = some 32 ∧
      cut (nested ++ ";" ++ "\\quit; \x7b';").toList =
        some (nested.toList, "\\quit; \x7b';".toList) := by
  have hparse : Statement.parse nested =
      .ok (.expr (.unary (.select "a = ';\x7d' or \x7b\";\";\x7d") (.relation "R"))) := by
    decide +kernel
  have hwidth : Text.width nested.toList = 32 := by decide +kernel
  obtain ⟨hend, hcut, -⟩ := end_after_lexed nested "\\quit; \x7b';" (.inr ⟨_, hparse⟩)
  exact ⟨hparse, hwidth ▸ hend, hcut⟩

end Statement

end RelAlgebra

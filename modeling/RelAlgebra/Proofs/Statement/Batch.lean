import RelAlgebra.Proofs.Statement.Reading
import RelAlgebra.Proofs.Statement.Splitting

/-!
Cutting a text that comes in parts.

What is cut off a first part stays as it is whatever follows, and cutting goes on from what is left
of it. What is left may be thrown away when it is blank: then the next piece lacks some blanks at
its start, which matter neither to whether it is blank nor to whether it is the command to quit.
-/

namespace RelAlgebra

namespace Statement

/-! ### A text in two parts -/

lemma cutFrom_append_of_some {n : Nesting} {cs text rest : List Char}
    (h : cutFrom n cs = some (text, rest)) (more : List Char) :
    cutFrom n (cs ++ more) = some (text, rest ++ more) := by
  induction cs generalizing n text with
  | nil => cases h
  | cons c cs ih =>
    rw [List.cons_append, cutFrom]
    rw [cutFrom] at h
    split_ifs at h ⊢ with hc
    · cases h
      rfl
    · obtain ⟨⟨text', rest'⟩, hcs, he⟩ := Option.map_eq_some_iff.mp h
      cases he
      rw [ih hcs]
      rfl

lemma cutAll_of_none {cs : List Char} (h : cut cs = none) : cutAll cs = ([], cs) := by
  rw [cutAll]
  split
  · rfl
  · simp_all

lemma cutAll_append (as bs : List Char) :
    cutAll (as ++ bs) = ((cutAll as).1 ++ (cutAll ((cutAll as).2 ++ bs)).1,
      (cutAll ((cutAll as).2 ++ bs)).2) := by
  induction as using cutAll.induct with
  | case1 as h => rw [cutAll_of_none h]; rfl
  | case2 as text rest h _ _ _ ih =>
    have happend : cut (as ++ bs) = some (text, rest ++ bs) := cutFrom_append_of_some h bs
    rw [cutAll_of_cut h, cutAll_of_cut happend, ih]
    rfl

/-! ### Blanks at the start -/

lemma allBlank_append {as bs : List Char} (h : Text.allBlank as = true) :
    Text.allBlank (as ++ bs) = Text.allBlank bs := by
  simp only [Text.allBlank, List.all_append] at h ⊢
  rw [h, Bool.true_and]

lemma trimStart_append {as bs : List Char} (h : Text.allBlank as = true) :
    Text.trimStart (as ++ bs) = Text.trimStart bs := by
  induction as with
  | nil => rfl
  | cons c as ih =>
    simp only [Text.allBlank, List.all_cons, Bool.and_eq_true] at h
    rw [List.cons_append, Text.trimStart_cons, if_pos h.1, ih h.2]

lemma cut_blanks {bs : List Char} (h : Text.allBlank bs = true) (cs : List Char) :
    cut (bs ++ cs) = (cut cs).map fun (text, rest) => (bs ++ text, rest) := by
  have hbs : Unbroken bs :=
    unbroken_of_class (p := Text.isBlank) (by decide) (List.all_eq_true.mp h)
  rw [cut, cutFrom_append hbs.1, hbs.2]
  rfl

/-- The statements of a text that are not blank. -/
def pieces (cs : List Char) : List (List Char) :=
  (cutAll cs).1.filter fun text => !Text.allBlank text

/-- Blanks before a text show in its first piece only, or else in what is left of it. -/
lemma pieces_blanks {bs : List Char} (h : Text.allBlank bs = true) (cs : List Char) :
    (pieces (bs ++ cs)).map Text.trimStart = (pieces cs).map Text.trimStart ∧
      Text.allBlank (cutAll (bs ++ cs)).2 = Text.allBlank (cutAll cs).2 := by
  unfold pieces
  cases hcut : cut cs with
  | none =>
    have hnone : cut (bs ++ cs) = none := by rw [cut_blanks h, hcut]; rfl
    rw [cutAll_of_none hcut, cutAll_of_none hnone]
    exact ⟨rfl, allBlank_append h⟩
  | some p =>
    obtain ⟨text, rest⟩ := p
    have hsome : cut (bs ++ cs) = some (bs ++ text, rest) := by rw [cut_blanks h, hcut]; rfl
    rw [cutAll_of_cut hcut, cutAll_of_cut hsome]
    refine ⟨?_, rfl⟩
    simp only [List.filter_cons, allBlank_append h]
    split
    · simp [trimStart_append h]
    · rfl

/-! ### The command to quit -/

def Quits (text : List Char) : Prop :=
  Statement.parse (String.ofList text) = .ok (.command .quit)

instance (text : List Char) : Decidable (Quits text) := inferInstanceAs (Decidable (_ = _))

end Statement

lemma Lexer.Layout.shift {offset : Nat} {ts : List Lexeme} {cs : List Char}
    (h : Layout offset ts cs) (other : Nat) :
    ∃ us, Layout other us cs ∧ us.map Lexeme.token = ts.map Lexeme.token := by
  induction h generalizing other with
  | nil => exact ⟨[], .nil other, rfl⟩
  | blank hc _ ih =>
    obtain ⟨us, hus, htokens⟩ := ih (other + _)
    exact ⟨us, .blank hc hus, htokens⟩
  | token hw _ ih =>
    obtain ⟨us, hus, htokens⟩ := ih (other + _)
    exact ⟨⟨other, _⟩ :: us, .token hw hus, by simp [htokens]⟩

namespace Statement

lemma quits_iff {text : List Char} :
    Quits text ↔ ∃ ts, Lexer.Layout 0 ts text ∧ ts.map Lexeme.token = [.command .quit] := by
  unfold Quits Statement.parse
  rw [Except.bind_eq_ok_iff]
  simp only [ofTokens_eq_command_iff, String.toList_ofList, Lexer.lex_eq_ok_iff]

lemma quits_trimStart {text : List Char} : Quits (Text.trimStart text) ↔ Quits text := by
  have hblank {c : Char} {cs : List Char} (hc : Text.isBlank c = true) :
      Quits (c :: cs) ↔ Quits cs := by
    rw [quits_iff, quits_iff]
    constructor
    · rintro ⟨ts, hts, htokens⟩
      rw [← Lexer.lexFrom_eq_ok_iff, Lexer.lexFrom, if_pos hc, Lexer.lexFrom_eq_ok_iff] at hts
      obtain ⟨us, hus, hsame⟩ := hts.shift 0
      exact ⟨us, hus, hsame.trans htokens⟩
    · rintro ⟨ts, hts, htokens⟩
      obtain ⟨us, hus, hsame⟩ := hts.shift (0 + c.utf8Size)
      exact ⟨us, .blank hc hus, hsame.trans htokens⟩
  induction text with
  | nil => rfl
  | cons c cs ih =>
    rw [Text.trimStart_cons]
    split
    · next hc => exact ih.trans (hblank hc).symm
    · exact Iff.rfl

/-- The first texts up to the command to quit. -/
def throughQuit : List (List Char) → List (List Char)
  | [] => []
  | text :: texts => if Quits text then [text] else text :: throughQuit texts

lemma throughQuit_append (as bs : List (List Char)) :
    throughQuit (as ++ bs) =
      if ∃ text ∈ as, Quits text then throughQuit as else as ++ throughQuit bs := by
  induction as with
  | nil => simp
  | cons a as ih =>
    by_cases ha : Quits a <;> by_cases has : ∃ text ∈ as, Quits text <;>
      simp [throughQuit, ha, has, ih]

lemma map_trimStart_throughQuit (texts : List (List Char)) :
    (throughQuit texts).map Text.trimStart = throughQuit (texts.map Text.trimStart) := by
  induction texts with
  | nil => rfl
  | cons text texts ih =>
    simp only [throughQuit, List.map_cons, quits_trimStart]
    split
    · rfl
    · rw [List.map_cons, ih]

end Statement

end RelAlgebra

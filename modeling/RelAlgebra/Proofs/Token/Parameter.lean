import RelAlgebra.Proofs.Text.Trim
import RelAlgebra.Token.Lexer

/-!
The texts that can stand between the braces of a parameter.

Such a text never closes the brace that opened it and ends just inside it, outside all quotes. The
closing brace is found exactly after such a text, and taking blanks off its ends leaves such a
text.
-/

namespace RelAlgebra

namespace Nesting

/-- Quoted stretches are between single or double quotes. -/
def Sound (n : Nesting) : Prop := ∀ q ∈ n.quote, q = '\'' ∨ q = '"'

lemma sound_opened : Sound opened := by simp [Sound, opened]

lemma Sound.step {n : Nesting} (h : n.Sound) (c : Char) : (n.step c).Sound := by
  unfold Nesting.step
  split
  · split
    · simp [Sound]
    · exact h
  · split_ifs with h1 h2 h3
    · exact h
    · exact h
    · intro q hq
      cases hq
      exact h3.1
    · exact h

lemma Sound.run {n : Nesting} (h : n.Sound) (cs : List Char) : (n.run cs).Sound := by
  induction cs generalizing n with
  | nil => exact h
  | cons c cs ih => exact ih (h.step c)

lemma Sound.step_blank {n : Nesting} (h : n.Sound) {c : Char} (hc : Text.isBlank c = true) :
    n.step c = n := by
  have hne {d : Char} (hd : Text.isBlank d = false) : c ≠ d := Text.ne_of_class hc hd
  have hq : c ≠ '\'' := hne (by decide)
  have hdq : c ≠ '"' := hne (by decide)
  unfold Nesting.step
  split
  · next q hn =>
    have hcq : c ≠ q := by
      rcases h q hn with rfl | rfl
      · exact hq
      · exact hdq
    rw [if_neg hcq]
  · rw [if_neg (hne (by decide)), if_neg (hne (by decide)), if_neg (by simp [hq, hdq])]

lemma Sound.run_blank {n : Nesting} (h : n.Sound) {cs : List Char}
    (hcs : ∀ c ∈ cs, Text.isBlank c = true) : n.run cs = n := by
  induction cs with
  | nil => rfl
  | cons c cs ih =>
    rw [List.forall_mem_cons] at hcs
    rw [run_cons, h.step_blank hcs.1, ih hcs.2]

/-- Reading a text from `n` on, no point is outside all braces. -/
def Within (n : Nesting) (cs : List Char) : Prop := ∀ p ∈ cs.inits, (n.run p).depth ≠ 0

instance (n : Nesting) (cs : List Char) : Decidable (n.Within cs) := List.decidableBAll ..

lemma within_nil {n : Nesting} : n.Within [] ↔ n.depth ≠ 0 := by
  simp [Within]

lemma within_cons {n : Nesting} {c : Char} {cs : List Char} :
    n.Within (c :: cs) ↔ n.depth ≠ 0 ∧ (n.step c).Within cs := by
  simp [Within]

lemma Within.depth_ne {n : Nesting} {cs : List Char} (h : n.Within cs) : n.depth ≠ 0 :=
  h [] (by simp)

lemma within_append {n : Nesting} {as bs : List Char} :
    n.Within (as ++ bs) ↔ n.Within as ∧ (n.run as).Within bs := by
  induction as generalizing n with
  | nil =>
    rw [List.nil_append, run_nil, within_nil]
    exact ⟨fun h => ⟨h.depth_ne, h⟩, And.right⟩
  | cons a as ih => rw [List.cons_append, within_cons, within_cons, ih, run_cons, and_assoc]

lemma Sound.within_blank {n : Nesting} (h : n.Sound) (hn : n.depth ≠ 0) {cs : List Char}
    (hcs : ∀ c ∈ cs, Text.isBlank c = true) : n.Within cs := by
  induction cs with
  | nil => exact within_nil.mpr hn
  | cons c cs ih =>
    rw [List.forall_mem_cons] at hcs
    exact within_cons.mpr ⟨hn, (h.step_blank hcs.1).symm ▸ ih hcs.2⟩

lemma step_depth_eq_zero {n : Nesting} {c : Char} (h : n.depth ≠ 0) :
    (n.step c).depth = 0 ↔ n = opened ∧ c = '}' := by
  obtain ⟨depth, quote⟩ := n
  simp only at h
  cases quote with
  | some q =>
    simp only [Nesting.step, opened, Nesting.mk.injEq, reduceCtorEq, and_false, false_and,
      iff_false]
    split <;> exact h
  | none =>
    simp only [Nesting.step, opened, Nesting.mk.injEq, and_true]
    split_ifs with h1 h2 h3
    · simp [h1]
    · simp only [h2, and_true]; omega
    · simp [h2, h]
    · simp [h2, h]

end Nesting

namespace Lexer

open Nesting

/-- A text that can stand between the braces of a parameter. -/
def Enclosed (cs : List Char) : Prop := opened.Within cs ∧ opened.run cs = opened

instance (cs : List Char) : Decidable (Enclosed cs) := inferInstanceAs (Decidable (_ ∧ _))

lemma closeParameter_eq_some_iff {n : Nesting} (hn : n.depth ≠ 0) {cs body rest : List Char} :
    closeParameter n cs = some (body, rest) ↔
      cs = body ++ '}' :: rest ∧ n.Within body ∧ n.run body = opened := by
  induction cs generalizing n body with
  | nil => simp [closeParameter]
  | cons c cs ih =>
    rw [closeParameter]
    split
    · next h0 =>
      -- the character closes the last brace, and the parameter ends before it
      obtain ⟨rfl, rfl⟩ := (step_depth_eq_zero hn).mp h0
      constructor
      · rintro ⟨⟩
        exact ⟨rfl, within_nil.mpr hn, rfl⟩
      · rintro ⟨hcs, hw, -⟩
        cases body with
        | nil => simp_all
        | cons d body =>
          rw [List.cons_append, List.cons.injEq] at hcs
          obtain ⟨rfl, -⟩ := hcs
          exact absurd h0 (within_cons.mp hw).2.depth_ne
    · next h0 =>
      -- a brace stays open, and the character belongs to the parameter
      rw [Option.map_eq_some_iff]
      constructor
      · rintro ⟨⟨body', rest'⟩, hb, he⟩
        cases he
        obtain ⟨rfl, hw, hr⟩ := (ih h0).mp hb
        exact ⟨rfl, within_cons.mpr ⟨hn, hw⟩, hr⟩
      · rintro ⟨hcs, hw, hr⟩
        cases body with
        | nil =>
          rw [List.nil_append, List.cons.injEq] at hcs
          rw [run_nil] at hr
          exact absurd ((step_depth_eq_zero hn).mpr ⟨hr, hcs.1⟩) h0
        | cons d body =>
          rw [List.cons_append, List.cons.injEq] at hcs
          obtain ⟨rfl, rfl⟩ := hcs
          exact ⟨(body, rest), (ih h0).mpr ⟨rfl, (within_cons.mp hw).2, hr⟩, rfl⟩

lemma closeParameter_opened {cs body rest : List Char} :
    closeParameter opened cs = some (body, rest) ↔ cs = body ++ '}' :: rest ∧ Enclosed body :=
  closeParameter_eq_some_iff (by decide)

lemma Enclosed.trim {cs : List Char} (h : Enclosed cs) : Enclosed (Text.trim cs) := by
  obtain ⟨as, bs, hcs, has, hbs⟩ := Text.exists_trim cs
  obtain ⟨hw, hr⟩ := h
  have hstart (p : List Char) : opened.run (as ++ p) = opened.run p := by
    rw [run_append, sound_opened.run_blank has]
  constructor
  · intro p hp
    rw [← hstart]
    refine hw _ ?_
    rw [List.mem_inits] at hp ⊢
    rw [hcs, List.append_assoc, List.prefix_append_right_inj]
    exact hp.trans (List.prefix_append _ _)
  · rw [hcs, List.append_assoc, hstart, run_append,
      (sound_opened.run _).run_blank hbs] at hr
    exact hr

lemma Enclosed.padded {as cs bs : List Char} (has : ∀ c ∈ as, Text.isBlank c = true)
    (h : Enclosed cs) (hbs : ∀ c ∈ bs, Text.isBlank c = true) : Enclosed (as ++ cs ++ bs) := by
  have hrun {ds : List Char} (hds : ∀ c ∈ ds, Text.isBlank c = true) : opened.run ds = opened :=
    sound_opened.run_blank hds
  have hwithin {ds : List Char} (hds : ∀ c ∈ ds, Text.isBlank c = true) : opened.Within ds :=
    sound_opened.within_blank (by decide) hds
  constructor
  · rw [within_append, within_append, run_append, hrun has, h.2]
    exact ⟨⟨hwithin has, h.1⟩, hwithin hbs⟩
  · rw [run_append, run_append, hrun has, h.2, hrun hbs]

end Lexer

end RelAlgebra

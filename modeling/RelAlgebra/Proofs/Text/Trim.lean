import Mathlib
import RelAlgebra.Text.Blank

/-!
Trimming a text takes blanks off its ends and nothing else.
-/

namespace RelAlgebra.Text

lemma ne_of_class {p : Char → Bool} {c d : Char} (hc : p c = true) (hd : p d = false) : c ≠ d :=
  ne_of_apply_ne p (by simp [hc, hd])

/-- No blank stands at either end. -/
def Trimmed (cs : List Char) : Prop :=
  (∀ c ∈ cs.head?, isBlank c = false) ∧ ∀ c ∈ cs.getLast?, isBlank c = false

-- The instance found for all characters would go through every one of them.
instance (cs : List Char) : Decidable (Trimmed cs) :=
  @instDecidableAnd _ _ (Option.decidableForallMem _) (Option.decidableForallMem _)

lemma head?_trimStart {cs : List Char} : ∀ c ∈ (trimStart cs).head?, isBlank c = false := by
  induction cs with
  | nil => simp
  | cons d cs ih => by_cases hd : isBlank d = true <;> simp_all

lemma trimStart_eq_self {cs : List Char} (h : ∀ c ∈ cs.head?, isBlank c = false) :
    trimStart cs = cs := by
  cases cs with
  | nil => rfl
  | cons d cs => simp [h d (by simp)]

lemma exists_trimEnd (cs : List Char) :
    ∃ bs, cs = trimEnd cs ++ bs ∧ ∀ c ∈ bs, isBlank c = true := by
  refine ⟨(cs.reverse.takeWhile isBlank).reverse, ?_,
    fun c hc => List.mem_takeWhile_imp (List.mem_reverse.mp hc)⟩
  rw [trimEnd, ← List.reverse_append]
  exact List.reverse_eq_iff.mp List.takeWhile_append_dropWhile.symm

lemma exists_trim (cs : List Char) :
    ∃ as bs, cs = as ++ trim cs ++ bs ∧ (∀ c ∈ as, isBlank c = true) ∧
      ∀ c ∈ bs, isBlank c = true := by
  obtain ⟨bs, hbs, hblank⟩ := exists_trimEnd (trimStart cs)
  refine ⟨cs.takeWhile isBlank, bs, ?_, fun c hc => List.mem_takeWhile_imp hc, hblank⟩
  rw [List.append_assoc, trim, ← hbs]
  exact List.takeWhile_append_dropWhile.symm

lemma trimmed_trim (cs : List Char) : Trimmed (trim cs) := by
  constructor
  · intro c hc
    obtain ⟨bs, hbs, -⟩ := exists_trimEnd (trimStart cs)
    refine @head?_trimStart cs c ?_
    rw [hbs]
    exact List.mem_head?_append_of_mem_head? hc
  · intro c hc
    rw [trim, trimEnd, List.getLast?_reverse] at hc
    exact head?_trimStart c hc

lemma trim_eq_self {cs : List Char} (h : Trimmed cs) : trim cs = cs := by
  rw [trim, trimEnd, trimStart_eq_self h.1, trimStart_eq_self (by simpa using h.2),
    List.reverse_reverse]

lemma trim_padded {as cs bs : List Char} (has : ∀ c ∈ as, isBlank c = true) (h : Trimmed cs)
    (hbs : ∀ c ∈ bs, isBlank c = true) : trim (as ++ cs ++ bs) = cs := by
  have hdrop {ds : List Char} (hds : ∀ c ∈ ds, isBlank c = true) (es : List Char) :
      trimStart (ds ++ es) = trimStart es := List.dropWhile_append_of_pos hds
  rw [trim, List.append_assoc, hdrop has]
  cases cs with
  | nil => rw [List.nil_append, ← bs.append_nil, hdrop hbs]; rfl
  | cons c cs =>
    have hstart : trimStart (c :: cs ++ bs) = c :: cs ++ bs := trimStart_eq_self h.1
    have hend : trimEnd (c :: cs ++ bs) = trimEnd (c :: cs) := by
      rw [trimEnd, List.reverse_append, hdrop (by simpa using hbs), ← trimEnd]
    have htrim : trim (c :: cs) = trimEnd (c :: cs) := by rw [trim, trimStart_eq_self h.1]
    rw [hstart, hend, ← htrim, trim_eq_self h]

end RelAlgebra.Text

import RelAlgebra.Nesting
import RelAlgebra.Text.Width

/-!
Cutting a text into statements. A statement ends at the first semicolon that stands outside all
braces.
-/

namespace RelAlgebra.Statement

/-- The text up to the end of the statement, and what follows its semicolon. -/
def cutFrom (n : Nesting) : List Char → Option (List Char × List Char)
  | [] => none
  | c :: cs =>
    if c = ';' ∧ n = .outside then some ([], cs)
    else (cutFrom (n.step c) cs).map fun (text, rest) => (c :: text, rest)

/-- The first statement of a text and what follows it; `none` while it is not complete. -/
def cut (cs : List Char) : Option (List Char × List Char) := cutFrom .outside cs

theorem length_cutFrom {n : Nesting} {cs text rest : List Char}
    (h : cutFrom n cs = some (text, rest)) : rest.length < cs.length := by
  induction cs generalizing n text with
  | nil => simp [cutFrom] at h
  | cons c cs ih =>
    simp only [cutFrom] at h
    split at h
    · simp_all
    · obtain ⟨⟨t, r⟩, hr, he⟩ := Option.map_eq_some_iff.1 h
      simp only [Prod.mk.injEq] at he
      have := ih (he.2 ▸ hr)
      simp only [List.length_cons]
      omega

/-- All complete statements of a text, and what follows the last of them. -/
def cutAll (cs : List Char) : List (List Char) × List Char :=
  match _h : cut cs with
  | none => ([], cs)
  | some (text, rest) =>
    let (texts, left) := cutAll rest
    (text :: texts, left)
termination_by cs.length
decreasing_by exact length_cutFrom ‹_›

/-- The byte offset of the semicolon that ends the first statement. -/
def end? (cs : List Char) : Option Nat := (cut cs).map fun (text, _) => Text.width text

end RelAlgebra.Statement

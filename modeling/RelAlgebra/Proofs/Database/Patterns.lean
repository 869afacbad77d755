import Mathlib
import RelAlgebra.Database.Backend

/-!
Patterns, and the names that are not listed.

The names that an engine keeps for itself start with `sqlite_`. They are left out of the listing by
a pattern, in which the underscore stands for any character. So the pattern fits all of them, and of
the other names those that start with `sqlite` and go on with another character.
-/

namespace RelAlgebra

/-- A text fits a pattern: an underscore stands for any character, a percent sign for any text, and
each other character for itself, a letter in either case. -/
inductive Fits : List Char → List Char → Prop
  | nil : Fits [] []
  | underscore (c : Char) {ps cs : List Char} (rest : Fits ps cs) : Fits ('_' :: ps) (c :: cs)
  | percent (start : List Char) {ps cs : List Char} (rest : Fits ps cs) :
    Fits ('%' :: ps) (start ++ cs)
  | char {p c : Char} {ps cs : List Char} (hp : p ≠ '_' ∧ p ≠ '%')
    (same : p.toLower = c.toLower) (rest : Fits ps cs) : Fits (p :: ps) (c :: cs)

lemma fits_underscore {ps cs : List Char} :
    Fits ('_' :: ps) cs ↔ ∃ c rest, cs = c :: rest ∧ Fits ps rest := by
  constructor
  · intro h
    cases h with
    | underscore c rest => exact ⟨c, _, rfl, rest⟩
    | char hp _ _ => exact absurd rfl hp.1
  · rintro ⟨c, rest, rfl, hrest⟩
    exact .underscore c hrest

lemma fits_percent {ps cs : List Char} :
    Fits ('%' :: ps) cs ↔ ∃ start rest, cs = start ++ rest ∧ Fits ps rest := by
  constructor
  · intro h
    cases h with
    | percent start rest => exact ⟨start, _, rfl, rest⟩
    | char hp _ _ => exact absurd rfl hp.2
  · rintro ⟨start, rest, rfl, hrest⟩
    exact .percent start hrest

lemma fits_char {p : Char} {ps cs : List Char} (hp : p ≠ '_' ∧ p ≠ '%') :
    Fits (p :: ps) cs ↔ ∃ c rest, cs = c :: rest ∧ p.toLower = c.toLower ∧ Fits ps rest := by
  constructor
  · intro h
    cases h with
    | underscore => exact absurd rfl hp.1
    | percent => exact absurd rfl hp.2
    | char _ same rest => exact ⟨_, _, rfl, same, rest⟩
  · rintro ⟨c, rest, rfl, same, hrest⟩
    exact .char hp same hrest

lemma fits_append {word ps cs : List Char} (h : ∀ p ∈ word, p ≠ '_' ∧ p ≠ '%') :
    Fits (word ++ ps) cs ↔ ∃ start rest, cs = start ++ rest ∧
      start.map Char.toLower = word.map Char.toLower ∧ Fits ps rest := by
  induction word generalizing cs with
  | nil => simp
  | cons p word ih =>
    obtain ⟨hp, hword⟩ := List.forall_mem_cons.mp h
    rw [List.cons_append, fits_char hp]
    constructor
    · rintro ⟨c, cs, rfl, hc, hcs⟩
      obtain ⟨start, rest, rfl, hstart, hrest⟩ := (ih hword).mp hcs
      exact ⟨c :: start, rest, rfl, by rw [List.map_cons, List.map_cons, hstart, hc], hrest⟩
    · rintro ⟨start, rest, rfl, hstart, hrest⟩
      cases start with
      | nil => cases hstart
      | cons c start =>
        obtain ⟨hc, hstart⟩ := List.cons.inj hstart
        exact ⟨c, start ++ rest, rfl, hc.symm, (ih hword).mpr ⟨start, rest, rfl, hstart, hrest⟩⟩

/-- The name starts with `sqlite_`, in letters of any case. -/
def Reserved (name : String) : Prop := "sqlite_".toList <+: name.toList.map Char.toLower

instance : DecidablePred Reserved := fun _ => inferInstanceAs (Decidable (_ <+: _))

/-- The name starts with `sqlite`, in letters of any case, and goes on with another character than
an underscore. -/
def Overlooked (name : String) : Prop :=
  ∃ start c rest, name.toList = start ++ c :: rest ∧
    start.map Char.toLower = "sqlite".toList ∧ c ≠ '_'

lemma fits_hiddenNames {cs : List Char} :
    Fits SqlEngine.hiddenNames.toList cs ↔ ∃ start c rest, cs = start ++ c :: rest ∧
      start.map Char.toLower = "sqlite".toList := by
  have hpattern : SqlEngine.hiddenNames.toList = "sqlite".toList ++ ['_', '%'] := by decide
  have hlower : ("sqlite".toList).map Char.toLower = "sqlite".toList := by decide
  have hword : ∀ p ∈ "sqlite".toList, p ≠ '_' ∧ p ≠ '%' := by simp
  -- the last two signs together ask for one more character
  have hrest {bs : List Char} : Fits ['_', '%'] bs ↔ ∃ c rest, bs = c :: rest := by
    rw [fits_underscore]
    constructor
    · rintro ⟨c, rest, rfl, -⟩
      exact ⟨c, rest, rfl⟩
    · rintro ⟨c, rest, rfl⟩
      have hany : Fits ['%'] rest := by simpa using Fits.percent rest Fits.nil
      exact ⟨c, rest, rfl, hany⟩
  rw [hpattern, fits_append hword, hlower]
  simp only [hrest]
  constructor
  · rintro ⟨start, _, rfl, hstart, c, rest, rfl⟩
    exact ⟨start, c, rest, rfl, hstart⟩
  · rintro ⟨start, c, rest, rfl, hstart⟩
    exact ⟨start, c :: rest, rfl, hstart, c, rest, rfl⟩

lemma Reserved.fits {name : String} (h : Reserved name) :
    Fits SqlEngine.hiddenNames.toList name.toList := by
  obtain ⟨rest, hrest⟩ := h
  have hword : "sqlite_".toList ++ rest = "sqlite".toList ++ '_' :: rest := rfl
  rw [hword] at hrest
  obtain ⟨start, _, hname, hstart, htail⟩ := List.map_eq_append_iff.mp hrest.symm
  obtain ⟨c, tail, rfl, -, -⟩ := List.map_eq_cons_iff.mp htail
  exact fits_hiddenNames.mpr ⟨start, c, tail, hname, hstart⟩

lemma fits_iff_overlooked {name : String} (h : ¬ Reserved name) :
    Fits SqlEngine.hiddenNames.toList name.toList ↔ Overlooked name := by
  rw [fits_hiddenNames]
  constructor
  · rintro ⟨start, c, rest, hname, hstart⟩
    refine ⟨start, c, rest, hname, hstart, ?_⟩
    rintro rfl
    refine h ⟨rest.map Char.toLower, ?_⟩
    rw [hname, List.map_append, hstart]
    rfl
  · rintro ⟨start, c, rest, hname, hstart, -⟩
    exact ⟨start, c, rest, hname, hstart⟩

end RelAlgebra

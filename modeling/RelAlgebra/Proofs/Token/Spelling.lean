import RelAlgebra.Proofs.Token.Parameter

/-!
How tokens are spelled, and how a text spells a list of tokens.

`Spells` gives the texts of one token, each before a text that does not run on into it; `Layout`
puts tokens one after another, with blanks between them. Reading tokens off a text finds exactly
the layouts of it.
-/

namespace RelAlgebra

lemma Except.map_eq_ok_iff {ε α β : Type} {x : Except ε α} {f : α → β} {b : β} :
    x.map f = .ok b ↔ ∃ a, x = .ok a ∧ f a = b := by
  cases x <;> simp [Except.map]

lemma Except.bind_eq_ok_iff {ε α β : Type} {x : Except ε α} {f : α → Except ε β} {b : β} :
    x.bind f = .ok b ↔ ∃ a, x = .ok a ∧ f a = .ok b := by
  cases x <;> simp [Except.bind]

namespace Lexer

/-- A text that does not go on with a character of the class. -/
def Stops (p : Char → Bool) (cs : List Char) : Prop := ∀ c ∈ cs.head?, p c = false

lemma stops_nil (p : Char → Bool) : Stops p [] := by simp [Stops]

lemma stops_cons {p : Char → Bool} {c : Char} {cs : List Char} :
    Stops p (c :: cs) ↔ p c = false := by
  simp [Stops]

lemma stops_dropWhile (p : Char → Bool) (cs : List Char) : Stops p (cs.dropWhile p) := by
  intro c hc
  have := List.head?_dropWhile_not p cs
  rw [Option.mem_def.mp hc] at this
  simpa using this

lemma takeWhile_append_stops {p : Char → Bool} {w rest : List Char} (hw : ∀ c ∈ w, p c = true)
    (hr : Stops p rest) : (w ++ rest).takeWhile p = w := by
  rw [List.takeWhile_append_of_pos hw]
  cases rest with
  | nil => simp
  | cons c cs => simp [stops_cons.mp hr]

lemma dropWhile_append_stops {p : Char → Bool} {w rest : List Char} (hw : ∀ c ∈ w, p c = true)
    (hr : Stops p rest) : (w ++ rest).dropWhile p = rest := by
  rw [List.dropWhile_append_of_pos hw]
  cases rest with
  | nil => rfl
  | cons c cs => simp [stops_cons.mp hr]

/-! ### One token -/

/-- The texts of a token. The last text is what follows it, which decides where it ends. -/
inductive Spells : Token → List Char → List Char → Prop
  | lparen (rest : List Char) : Spells .lparen ['('] rest
  | rparen (rest : List Char) : Spells .rparen [')'] rest
  | ident {name rest : List Char} (hne : name ≠ []) (hname : ∀ c ∈ name, isIdent c = true)
      (hrest : Stops isIdent rest) : Spells (.ident (String.ofList name)) name rest
  | plain {k : Keyword} {t : Token} {word rest : List Char}
      (hword : ∀ c ∈ word, c.isAlpha = true) (hk : Keyword.ofWord? word = some k)
      (ht : k.token none = .ok t) (hrest : Stops Char.isAlpha rest)
      (hbrace : ¬ ['_', '{'] <+: rest) : Spells t ('\\' :: word) rest
  | parameter {k : Keyword} {t : Token} {word body : List Char} (rest : List Char)
      (hword : ∀ c ∈ word, c.isAlpha = true) (hk : Keyword.ofWord? word = some k)
      (hbody : Enclosed body) (ht : k.token (some (String.ofList (Text.trim body))) = .ok t) :
      Spells t ('\\' :: word ++ '_' :: '{' :: body ++ ['}']) rest

lemma isIdent_not_blank {c : Char} (h : isIdent c = true) : Text.isBlank c = false := by
  simp only [isIdent, Char.isAlphanum, Char.isAlpha, Char.isUpper, Char.isLower, Char.isDigit,
    Bool.or_eq_true, Bool.and_eq_true, decide_eq_true_eq, beq_iff_eq, ge_iff_le,
    UInt32.le_iff_toNat_le] at h
  change (((65 ≤ c.toNat ∧ c.toNat ≤ 90 ∨ 97 ≤ c.toNat ∧ c.toNat ≤ 122) ∨
    48 ≤ c.toNat ∧ c.toNat ≤ 57) ∨ c = '_') ∨ c = '.' at h
  rcases h with (h | rfl) | rfl
  · simp only [Text.isBlank, Bool.or_eq_false_iff, Bool.and_eq_false_iff, decide_eq_false_iff_not,
      beq_eq_false_iff_ne]
    omega
  · decide
  · decide

def Apart (cs : List Char) : Prop := ∀ c ∈ cs.head?, Text.isBlank c = true

lemma apart_cons {c : Char} {cs : List Char} (hc : Text.isBlank c = true) : Apart (c :: cs) := by
  simpa [Apart] using hc

lemma Apart.stops {cs : List Char} (h : Apart cs) : Stops isIdent cs := by
  intro c hc
  by_contra hident
  have hblank := isIdent_not_blank (Bool.not_eq_false _ ▸ hident)
  rw [h c hc] at hblank
  cases hblank

lemma Apart.stops_alpha {cs : List Char} (h : Apart cs) : Stops Char.isAlpha cs := by
  intro c hc
  have hident := h.stops c hc
  simp only [isIdent, Char.isAlphanum, Bool.or_eq_false_iff] at hident
  exact hident.1.1.1

lemma Apart.not_brace {cs : List Char} (h : Apart cs) : ¬ ['_', '{'] <+: cs := by
  rintro ⟨rest, rfl⟩
  exact absurd (h '_' rfl) (by decide)

lemma Spells.exists_cons {t : Token} {w rest : List Char} (h : Spells t w rest) :
    ∃ c cs, w = c :: cs ∧ Text.isBlank c = false := by
  cases h with
  | lparen => exact ⟨_, _, rfl, by decide⟩
  | rparen => exact ⟨_, _, rfl, by decide⟩
  | ident hne hname =>
    obtain ⟨c, cs, rfl⟩ := List.exists_cons_of_ne_nil hne
    exact ⟨c, cs, rfl, isIdent_not_blank (hname c (by simp))⟩
  | plain => exact ⟨_, _, rfl, by decide⟩
  | parameter => exact ⟨_, _, rfl, by decide⟩

lemma width_parameter (word body : List Char) :
    Text.width ('\\' :: word ++ '_' :: '{' :: body ++ ['}']) =
      1 + Text.width word + (2 + Text.width body + 1) := by
  have h1 : '\\'.utf8Size = 1 ∧ '_'.utf8Size = 1 ∧ '{'.utf8Size = 1 ∧ '}'.utf8Size = 1 := by decide
  simp only [List.cons_append, List.append_assoc, Text.width_cons, Text.width_append,
    Text.width_nil, h1]
  omega

lemma wordToken_plain {k : Keyword} {t : Token} {word rest : List Char}
    (hk : Keyword.ofWord? word = some k) (ht : k.token none = .ok t)
    (hbrace : ¬ ['_', '{'] <+: rest) :
    wordToken word rest = .ok ⟨t, 1 + Text.width word, rest⟩ := by
  simp only [wordToken, hk]
  split
  · simp at hbrace
  · simp [plainToken, ht]

lemma wordToken_parameter {k : Keyword} {t : Token} {word body rest : List Char}
    (hk : Keyword.ofWord? word = some k) (hbody : Enclosed body)
    (ht : k.token (some (String.ofList (Text.trim body))) = .ok t) :
    wordToken word ('_' :: '{' :: body ++ '}' :: rest) =
      .ok ⟨t, 1 + Text.width word + (2 + Text.width body + 1), rest⟩ := by
  have hclose : closeParameter .opened (body ++ '}' :: rest) = some (body, rest) :=
    closeParameter_opened.mpr ⟨rfl, hbody⟩
  simp [wordToken, hk, parameterToken, hclose, ht]

lemma take_word {word rest : List Char} (hword : ∀ c ∈ word, c.isAlpha = true)
    (hrest : Stops Char.isAlpha rest) : take '\\' (word ++ rest) = wordToken word rest := by
  rw [take, if_neg (by decide), if_neg (by decide), if_pos rfl,
    takeWhile_append_stops hword hrest, dropWhile_append_stops hword hrest]

lemma Spells.take_eq {t : Token} {w rest : List Char} (h : Spells t w rest) :
    ∀ {c : Char} {cs : List Char}, c :: cs = w ++ rest →
      take c cs = .ok ⟨t, Text.width w, rest⟩ := by
  cases h with
  | lparen => rintro c cs ⟨⟩; rfl
  | rparen => rintro c cs ⟨⟩; rfl
  | @ident name _ hne hname hrest =>
    intro c cs hcs
    obtain ⟨d, name, rfl⟩ := List.exists_cons_of_ne_nil hne
    rw [List.cons_append, List.cons.injEq] at hcs
    obtain ⟨rfl, rfl⟩ := hcs
    rw [List.forall_mem_cons] at hname
    have hne {d : Char} (hd : isIdent d = false) : c ≠ d := Text.ne_of_class hname.1 hd
    rw [take, if_neg (hne (by decide)), if_neg (hne (by decide)), if_neg (hne (by decide)),
      if_pos hname.1, takeWhile_append_stops hname.2 hrest, dropWhile_append_stops hname.2 hrest]
  | plain hword hk ht hrest hbrace =>
    rintro c cs ⟨⟩
    exact (take_word hword hrest).trans (wordToken_plain hk ht hbrace)
  | @parameter k t word body _ hword hk hbody ht =>
    intro c cs hcs
    simp only [List.cons_append, List.append_assoc, List.cons.injEq, List.nil_append] at hcs
    obtain ⟨rfl, rfl⟩ := hcs
    rw [take_word hword (stops_cons.mpr (by decide)), ← List.cons_append, ← List.cons_append,
      wordToken_parameter hk hbody ht, width_parameter]

lemma exists_spells_of_wordToken {word rest cs : List Char} {t : Token} {n : Nat}
    (hword : ∀ c ∈ word, c.isAlpha = true) (hrest : Stops Char.isAlpha rest)
    (h : wordToken word rest = .ok ⟨t, n, cs⟩) :
    ∃ w, '\\' :: word ++ rest = w ++ cs ∧ Spells t w cs ∧ n = Text.width w := by
  rw [wordToken] at h
  split at h
  · cases h
  next k hk =>
    split at h
    · next rest =>
      rw [parameterToken] at h
      split at h
      · cases h
      next body rest' hclose =>
        split at h
        · next t' ht =>
          cases h
          obtain ⟨rfl, hbody⟩ := closeParameter_opened.mp hclose
          exact ⟨_, by simp, .parameter _ hword hk hbody ht, (width_parameter ..).symm⟩
        · cases h
    · next hbrace =>
      rw [plainToken] at h
      split at h
      · next t' ht =>
        cases h
        refine ⟨_, rfl, .plain hword hk ht hrest ?_, rfl⟩
        -- an underscore and a brace would have started a parameter
        rintro ⟨cs, hcs⟩
        exact hbrace cs hcs.symm
      · cases h

lemma exists_spells_of_take {c : Char} {cs rest : List Char} {t : Token} {n : Nat}
    (h : take c cs = .ok ⟨t, n, rest⟩) :
    ∃ w, c :: cs = w ++ rest ∧ Spells t w rest ∧ n = Text.width w := by
  rw [take] at h
  split_ifs at h with h1 h2 h3 h4
  · cases h
    exact ⟨['('], by rw [h1]; rfl, .lparen _, rfl⟩
  · cases h
    exact ⟨[')'], by rw [h2]; rfl, .rparen _, rfl⟩
  · obtain ⟨w, hw, hs, hn⟩ := exists_spells_of_wordToken
      (fun c hc => List.mem_takeWhile_imp hc) (stops_dropWhile _ _) h
    rw [List.cons_append, List.takeWhile_append_dropWhile] at hw
    exact ⟨w, by rw [h3, hw], hs, hn⟩
  · cases h
    refine ⟨_, ?_, .ident (by simp) ?_ (stops_dropWhile _ _), rfl⟩
    · rw [List.cons_append, List.takeWhile_append_dropWhile]
    · rw [List.forall_mem_cons]
      exact ⟨h4, fun c hc => List.mem_takeWhile_imp hc⟩

lemma take_eq_ok_iff {c : Char} {cs rest : List Char} {t : Token} {n : Nat} :
    take c cs = .ok ⟨t, n, rest⟩ ↔
      ∃ w, c :: cs = w ++ rest ∧ Spells t w rest ∧ n = Text.width w := by
  constructor
  · exact exists_spells_of_take
  · rintro ⟨w, hcs, hw, rfl⟩
    exact hw.take_eq hcs

/-! ### A list of tokens -/

/-- A text in which the tokens stand one after another from the byte offset on, with nothing but
blanks between them. -/
inductive Layout : Nat → List Lexeme → List Char → Prop
  | nil (offset : Nat) : Layout offset [] []
  | blank {offset : Nat} {ts : List Lexeme} {c : Char} {cs : List Char}
      (hc : Text.isBlank c = true) (h : Layout (offset + c.utf8Size) ts cs) :
      Layout offset ts (c :: cs)
  | token {offset : Nat} {t : Token} {ts : List Lexeme} {w rest : List Char}
      (hw : Spells t w rest) (h : Layout (offset + Text.width w) ts rest) :
      Layout offset (⟨offset, t⟩ :: ts) (w ++ rest)

lemma Layout.blanks {offset : Nat} {bs : List Char} (hbs : ∀ c ∈ bs, Text.isBlank c = true)
    {ts : List Lexeme} {cs : List Char} (h : Layout (offset + Text.width bs) ts cs) :
    Layout offset ts (bs ++ cs) := by
  induction bs generalizing offset with
  | nil => exact h
  | cons b bs ih =>
    rw [List.forall_mem_cons] at hbs
    rw [Text.width_cons, ← Nat.add_assoc] at h
    exact .blank hbs.1 (ih hbs.2 h)

lemma lexFrom_taken {offset : Nat} {c : Char} {cs : List Char} {taken : Taken}
    (hc : Text.isBlank c = false) (h : take c cs = .ok taken) :
    lexFrom offset (c :: cs) =
      (lexFrom (offset + taken.width) taken.rest).map (⟨offset, taken.token⟩ :: ·) := by
  rw [lexFrom, if_neg (by simp [hc])]
  split
  · simp_all
  · next h' =>
    rw [h] at h'
    cases h'
    rfl

lemma lexFrom_eq_ok_iff {offset : Nat} {cs : List Char} {ts : List Lexeme} :
    lexFrom offset cs = .ok ts ↔ Layout offset ts cs := by
  constructor
  · intro h
    fun_induction lexFrom offset cs generalizing ts with
    | case1 offset =>
      cases h
      exact .nil offset
    | case2 offset c cs hc ih => exact .blank hc (ih h)
    | case3 => cases h
    | case4 offset c cs hc taken htake ih =>
      obtain ⟨us, hus, rfl⟩ := Except.map_eq_ok_iff.mp h
      obtain ⟨w, hcs, hw, hwidth⟩ := take_eq_ok_iff.mp htake
      rw [hcs]
      exact .token hw (hwidth ▸ ih hus)
  · intro h
    induction h with
    | nil => simp [lexFrom]
    | blank hc h ih => rw [lexFrom, if_pos hc, ih]
    | token hw h ih =>
      obtain ⟨c, cs, rfl, hc⟩ := hw.exists_cons
      rw [List.cons_append, lexFrom_taken hc (hw.take_eq List.cons_append.symm), ih]
      rfl

lemma lex_eq_ok_iff {cs : List Char} {ts : List Lexeme} : lex cs = .ok ts ↔ Layout 0 ts cs :=
  lexFrom_eq_ok_iff

end Lexer

end RelAlgebra

import RelAlgebra.Proofs.Expr.Printing

/-!
Tokens written with any layout.

Before a token may stand any blanks. The letters of an operator's word may be capitals or not, each
by itself, and blanks may stand around its parameter inside the braces. None of it changes what is
read. If some blank stands between each two tokens, reading finds the tokens that were written, at
the byte offsets at which they were written.
-/

namespace RelAlgebra.Lexer

/-! ### Words -/

/-- The word with the letters at some places as capitals. -/
def cased (capital : ℕ → Bool) (k : Keyword) : List Char :=
  k.word.toList.mapIdx fun i c => if capital i then c.toUpper else c

lemma letter_of_word {k : Keyword} {c : Char} (hc : c ∈ k.word.toList) :
    c.toLower = c ∧ c.toUpper.toLower = c ∧ c.isAlpha = true ∧ c.toUpper.isAlpha = true := by
  have h : ∀ k ∈ Keyword.all, (k.word.toList.all fun c => decide (c.toLower = c ∧
      c.toUpper.toLower = c ∧ c.isAlpha = true ∧ c.toUpper.isAlpha = true)) = true := by
    decide +kernel
  have hk : k ∈ Keyword.all := by cases k <;> decide
  simpa using List.all_eq_true.mp (h k hk) c hc

lemma isAlpha_cased (capital : ℕ → Bool) (k : Keyword) :
    ∀ c ∈ cased capital k, c.isAlpha = true := by
  intro c hc
  obtain ⟨i, hi, rfl⟩ := List.mem_mapIdx.mp hc
  obtain ⟨-, -, hlower, hupper⟩ := letter_of_word (List.getElem_mem hi)
  split
  · exact hupper
  · exact hlower

lemma map_toLower_cased (capital : ℕ → Bool) (k : Keyword) :
    (cased capital k).map Char.toLower = k.word.toList := by
  refine List.ext_getElem (by simp [cased]) fun i hi hi' => ?_
  obtain ⟨hlower, hupper, -, -⟩ := letter_of_word (List.getElem_mem hi')
  simp only [cased, List.getElem_map, List.getElem_mapIdx]
  split
  · exact hupper
  · exact hlower

lemma ofWord?_cased (capital : ℕ → Bool) (k : Keyword) :
    Keyword.ofWord? (cased capital k) = some k := by
  rw [Keyword.ofWord?, map_toLower_cased]
  cases k <;> rfl

/-! ### One token -/

abbrev Blanks : Type := { cs : List Char // Text.allBlank cs = true }

lemma Blanks.isBlank (bs : Blanks) : ∀ c ∈ bs.val, Text.isBlank c = true :=
  List.all_eq_true.mp bs.property

/-- A token that can be written, and how it is. -/
structure Written where
  token : Token
  wellFormed : token.WellFormed
  /-- What stands before the token. -/
  gap : Blanks
  /-- The places of the capitals in the operator's word. -/
  capital : ℕ → Bool := fun _ => false
  /-- What stands before the parameter, inside the braces. -/
  opening : Blanks := ⟨[], rfl⟩
  /-- What stands after it. -/
  closing : Blanks := ⟨[], rfl⟩

namespace Written

/-- The text of an operator and its parameter, if it has one. -/
def operator (w : Written) (k : Keyword) : Option String → List Char
  | none => '\\' :: cased w.capital k
  | some text =>
    '\\' :: cased w.capital k ++
      '_' :: '{' :: (w.opening.val ++ text.toList ++ w.closing.val) ++ ['}']

def text (w : Written) : List Char :=
  match w.token with
  | .ident name => name.toList
  | .lparen => ['(']
  | .rparen => [')']
  | .unary op => w.operator op.keyword (some op.parameter)
  | .binary op => w.operator op.keyword op.parameter?
  | .command c => w.operator c.keyword c.parameter?

lemma spells_operator (w : Written) {k : Keyword} {t : Token} {text? : Option String}
    (ht : k.token text? = .ok t) (htext : ∀ text ∈ text?, IsParameter text) {rest : List Char}
    (hrest : Apart rest) : Spells t (w.operator k text?) rest := by
  have hword := isAlpha_cased w.capital k
  have hk := ofWord?_cased w.capital k
  cases text? with
  | none => exact .plain hword hk ht hrest.stops_alpha hrest.not_brace
  | some text =>
    obtain ⟨htrimmed, henclosed⟩ := htext text rfl
    refine .parameter rest hword hk (henclosed.padded w.opening.isBlank w.closing.isBlank) ?_
    rw [Text.trim_padded w.opening.isBlank htrimmed w.closing.isBlank, String.ofList_toList, ht]

lemma spells (w : Written) {rest : List Char} (hrest : Apart rest) :
    Spells w.token w.text rest := by
  have hwell := w.wellFormed
  rw [text]
  cases ht : w.token with
  | ident name =>
    rw [ht] at hwell
    exact spells_name hwell hrest.stops
  | lparen => exact .lparen rest
  | rparen => exact .rparen rest
  | unary op =>
    rw [ht] at hwell
    refine w.spells_operator (by cases op <;> rfl) ?_ hrest
    rintro text ⟨⟩
    exact hwell
  | binary op =>
    rw [ht] at hwell
    exact w.spells_operator (by cases op <;> rfl) hwell hrest
  | command c =>
    rw [ht] at hwell
    exact w.spells_operator (by cases c <;> rfl) hwell hrest

/-! ### A list of tokens -/

/-- The tokens one after another, each after its blanks. -/
def textOf (ws : List Written) : List Char := ws.flatMap fun w => w.gap.val ++ w.text

lemma textOf_nil : textOf [] = [] := rfl

lemma textOf_cons (w : Written) (ws : List Written) :
    textOf (w :: ws) = w.gap.val ++ w.text ++ textOf ws := rfl

lemma apart_textOf {ws : List Written} (last : Blanks) (h : ∀ w ∈ ws, w.gap.val ≠ []) :
    Apart (textOf ws ++ last.val) := by
  intro c hc
  cases ws with
  | nil => exact last.isBlank c (List.mem_of_mem_head? hc)
  | cons w ws =>
    obtain ⟨b, bs, hgap⟩ := List.exists_cons_of_ne_nil (h w (by simp))
    rw [textOf_cons, hgap] at hc
    cases hc
    exact w.gap.isBlank c (by simp [hgap])

lemma layout_textOf (offset : ℕ) (ws : List Written) (last : Blanks)
    (h : ∀ w ∈ ws.tail, w.gap.val ≠ []) :
    Layout offset (ws.mapIdx fun i w =>
        ⟨offset + Text.width (textOf (ws.take i) ++ w.gap.val), w.token⟩)
      (textOf ws ++ last.val) := by
  induction ws generalizing offset with
  | nil => simpa [textOf_nil] using Layout.blanks last.isBlank (.nil (offset + Text.width last.val))
  | cons w ws ih =>
    have hrest := ih (offset + Text.width w.gap.val + Text.width w.text)
      fun v hv => h v (List.mem_of_mem_tail hv)
    have hapart : Apart (textOf ws ++ last.val) := apart_textOf last h
    have htoken := Layout.token (w.spells hapart) hrest
    -- what stands before the later tokens begins with this one
    have hoffset (i : ℕ) (v : Written) :
        offset + Text.width w.gap.val + Text.width w.text +
            Text.width (textOf (ws.take i) ++ v.gap.val) =
          offset + Text.width (textOf ((w :: ws).take (i + 1)) ++ v.gap.val) := by
      rw [List.take_succ_cons, textOf_cons]
      simp only [Text.width_append]
      omega
    rw [List.mapIdx_cons, textOf_cons, List.append_assoc, List.append_assoc]
    refine Layout.blanks w.gap.isBlank ?_
    simpa only [hoffset, List.take_zero, textOf_nil, List.nil_append] using htoken

/-- **Layout and case do not matter.** Tokens with blanks between them are read as they were
written, each at the number of bytes before it. -/
theorem lex_written (ws : List Written) (last : Blanks) (h : ∀ w ∈ ws.tail, w.gap.val ≠ []) :
    lex (textOf ws ++ last.val) =
      .ok (ws.mapIdx fun i w => ⟨Text.width (textOf (ws.take i) ++ w.gap.val), w.token⟩) := by
  have hlayout := layout_textOf 0 ws last h
  simp only [Nat.zero_add] at hlayout
  exact lex_eq_ok_iff.mpr hlayout

/-- Capitals and wide blanks. One parameter has a brace in quotes and a backslash, and one is
empty. -/
def scattered : List Written :=
  [{ token := .unary (.select "é = '\x7d' or \x7b\\x\x7d"), wellFormed := by decide +kernel
     gap := ⟨[], rfl⟩, capital := fun i => i % 2 == 0
     opening := ⟨['\u3000'], rfl⟩, closing := ⟨['\n', ' '], rfl⟩ },
   { token := .ident "s.T", wellFormed := by decide +kernel, gap := ⟨['\u2003'], rfl⟩ },
   { token := .binary (.join none), wellFormed := by decide +kernel
     gap := ⟨['\t', '\u0085'], rfl⟩, capital := fun _ => true },
   { token := .command (.sqlExec ""), wellFormed := by decide +kernel
     gap := ⟨['\n'], rfl⟩, capital := (· == 3), opening := ⟨['\t', ' '], rfl⟩ }]

theorem scattered_lexed :
    let text := "\\SeLeCt_\x7b\u3000é = '\x7d' or \x7b\\x\x7d\n \x7d\u2003s.T\t\u0085\\JOIN\n" ++
      "\\sqlExec_\x7b\t \x7d\u00a0"
    textOf scattered ++ ['\u00a0'] = text.toList ∧
      (∀ w ∈ scattered.tail, w.gap.val ≠ []) ∧
      lex text.toList = .ok [⟨0, .unary (.select "é = '\x7d' or \x7b\\x\x7d")⟩, ⟨34, .ident "s.T"⟩,
        ⟨40, .binary (.join none)⟩, ⟨46, .command (.sqlExec "")⟩] := by
  intro text
  have htext : textOf scattered ++ ['\u00a0'] = text.toList := by decide +kernel
  have hgaps : ∀ w ∈ scattered.tail, w.gap.val ≠ [] := by simp [scattered]
  refine ⟨htext, hgaps, ?_⟩
  rw [← htext]
  exact (lex_written scattered ⟨['\u00a0'], rfl⟩ hgaps).trans
    (congrArg Except.ok (by decide +kernel))

end Written

end RelAlgebra.Lexer

import RelAlgebra.Proofs.Expr.Grammar

/-!
Printing expressions, and reading them back.

The expressions that can be read off a text are the well-formed ones: the rules on names and
parameters are those of the tokens, and nothing else is asked. A well-formed expression is read
back from its printed text, and no text that is read as it has fewer parentheses.
-/

namespace RelAlgebra

/-! ### Well-formed expressions -/

def IsName (name : String) : Prop := name.toList ≠ [] ∧ ∀ c ∈ name.toList, Lexer.isIdent c = true

/-- A text that an operator can have as its parameter. -/
def IsParameter (text : String) : Prop := Text.Trimmed text.toList ∧ Lexer.Enclosed text.toList

instance (name : String) : Decidable (IsName name) :=
  @instDecidableAnd _ _ inferInstance (List.decidableBAll _ _)

instance (text : String) : Decidable (IsParameter text) := inferInstanceAs (Decidable (_ ∧ _))

def UnaryOp.parameter : UnaryOp → String
  | .select text | .project text | .rename text => text

def BinaryOp.parameter? : BinaryOp → Option String
  | .join condition => condition
  | .cross | .union | .diff | .intersect => none

def Command.parameter? : Command → Option String
  | .sqlExec sql => some sql
  | .help | .quit | .list => none

def Token.WellFormed : Token → Prop
  | .ident name => IsName name
  | .unary op => IsParameter op.parameter
  | .binary op => ∀ text ∈ op.parameter?, IsParameter text
  | .command c => ∀ text ∈ c.parameter?, IsParameter text
  | .lparen | .rparen => True

instance : DecidablePred Token.WellFormed
  | .ident name => inferInstanceAs (Decidable (IsName name))
  | .unary op => inferInstanceAs (Decidable (IsParameter op.parameter))
  | .binary op => inferInstanceAs (Decidable (∀ text ∈ op.parameter?, IsParameter text))
  | .command c => inferInstanceAs (Decidable (∀ text ∈ c.parameter?, IsParameter text))
  | .lparen | .rparen => inferInstanceAs (Decidable True)

namespace Expr

def WellFormed : Expr → Prop
  | relation name => IsName name
  | unary op e => IsParameter op.parameter ∧ e.WellFormed
  | binary op l r => (∀ text ∈ op.parameter?, IsParameter text) ∧ l.WellFormed ∧ r.WellFormed

instance decidableWellFormed : DecidablePred WellFormed
  | relation name => inferInstanceAs (Decidable (IsName name))
  | unary op e =>
    have := decidableWellFormed e
    inferInstanceAs (Decidable (IsParameter op.parameter ∧ e.WellFormed))
  | binary op l r =>
    have := decidableWellFormed l
    have := decidableWellFormed r
    inferInstanceAs (Decidable
      ((∀ text ∈ op.parameter?, IsParameter text) ∧ l.WellFormed ∧ r.WellFormed))

end Expr

namespace Lexer

lemma isParameter_trim {body : List Char} (h : Enclosed body) :
    IsParameter (String.ofList (Text.trim body)) := by
  simpa [IsParameter] using And.intro (Text.trimmed_trim body) h.trim

lemma wellFormed_token {k : Keyword} {t : Token} {text? : Option String}
    (ht : k.token text? = .ok t) (h : ∀ text ∈ text?, IsParameter text) : t.WellFormed := by
  rcases text? with _ | text
  · cases k <;> cases ht <;> simp [Token.WellFormed, BinaryOp.parameter?, Command.parameter?]
  · have htext := h text rfl
    cases k <;> cases ht <;>
      simp [Token.WellFormed, UnaryOp.parameter, BinaryOp.parameter?, Command.parameter?, htext]

lemma Spells.wellFormed {t : Token} {w rest : List Char} (h : Spells t w rest) :
    t.WellFormed := by
  cases h with
  | lparen => trivial
  | rparen => trivial
  | ident hne hname => simpa [Token.WellFormed, IsName] using And.intro hne hname
  | plain _ _ ht => exact wellFormed_token ht nofun
  | parameter _ _ _ hbody ht =>
    refine wellFormed_token ht ?_
    rintro text ⟨⟩
    exact isParameter_trim hbody

lemma Layout.wellFormed {offset : Nat} {ls : List Lexeme} {cs : List Char}
    (h : Layout offset ls cs) : ∀ t ∈ ls.map Lexeme.token, t.WellFormed := by
  induction h with
  | nil => simp
  | blank hc h ih => exact ih
  | token hw h ih => exact List.forall_mem_cons.mpr ⟨hw.wellFormed, ih⟩

end Lexer

lemma Expr.Derives.wellFormed {p : Phrase} {ts : List Token} {e : Expr} (h : Derives p ts e)
    (hts : ∀ t ∈ ts, t.WellFormed) : e.WellFormed := by
  induction h with
  | ident name => exact hts (.ident name) (by simp)
  | paren h ih => exact ih fun t ht => hts t (by simp [ht])
  | primary h ih => exact ih hts
  | unary op h ih =>
    rw [List.forall_mem_cons] at hts
    exact ⟨hts.1, ih hts.2⟩
  | single h ih => exact ih hts
  | binary op hl hr ihl ihr =>
    rw [List.forall_mem_append, List.forall_mem_cons] at hts
    exact ⟨hts.2.1, ihl hts.1, ihr hts.2.2⟩

/-! ### Printing -/

namespace Expr

/-- Puts the text of an operand in parentheses if the operand is a binary operation. -/
def parenthesized (e : Expr) (text : String) : String :=
  match e with
  | binary .. => "(" ++ text ++ ")"
  | _ => text

/-- The text of an expression, with parentheses where the grammar asks for them. -/
def print : Expr → String
  | relation name => name
  | unary op e => op.label ++ " " ++ e.parenthesized e.print
  | binary op l r => l.print ++ " " ++ op.label ++ " " ++ r.parenthesized r.print

/-- Puts the tokens of an operand between parentheses if the operand is a binary operation. -/
def bracketed (e : Expr) (ts : List Token) : List Token :=
  match e with
  | binary .. => .lparen :: ts ++ [.rparen]
  | _ => ts

def tokens : Expr → List Token
  | relation name => [.ident name]
  | unary op e => .unary op :: e.bracketed e.tokens
  | binary op l r => l.tokens ++ .binary op :: r.bracketed r.tokens

lemma derives_tokens (e : Expr) :
    Derives .expr e.tokens e ∧ Derives .unary (e.bracketed e.tokens) e := by
  induction e with
  | relation name =>
    have h : Derives .unary [.ident name] (relation name) := .primary (.ident name)
    exact ⟨.single h, h⟩
  | unary op e ih =>
    have h : Derives .unary (unary op e).tokens (unary op e) := .unary op ih.2
    exact ⟨.single h, h⟩
  | binary op l r ihl ihr =>
    have h : Derives .expr (binary op l r).tokens (binary op l r) := .binary op ihl.1 ihr.2
    exact ⟨h, .primary (.paren h)⟩

lemma count_bracketed_le (e : Expr) :
    (e.bracketed e.tokens).count .lparen ≤ e.tokens.count .lparen + 1 := by
  cases e <;> simp [bracketed]

/-- No other tokens of an expression have fewer parentheses than the printed ones. -/
lemma Derives.count_le {p : Phrase} {ts : List Token} {e : Expr} (h : Derives p ts e) :
    e.tokens.count .lparen ≤ ts.count .lparen ∧
      (p ≠ .expr → (e.bracketed e.tokens).count .lparen ≤ ts.count .lparen) := by
  induction h with
  | ident name => simp [tokens, bracketed]
  | @paren ts e h ih =>
    have hle := count_bracketed_le e
    have hcount : (Token.lparen :: ts ++ [Token.rparen]).count .lparen = ts.count .lparen + 1 := by
      simp
    rw [hcount]
    exact ⟨by omega, fun _ => by omega⟩
  | primary h ih => exact ⟨ih.1, fun _ => ih.2 nofun⟩
  | unary op h ih =>
    have := ih.2 nofun
    simpa [tokens, bracketed] using this
  | single h ih => exact ⟨ih.1, fun h => absurd rfl h⟩
  | @binary op ls rs l r hl hr ihl ihr =>
    have := ihr.2 nofun
    refine ⟨?_, fun h => absurd rfl h⟩
    simp only [tokens, List.count_append, List.count_cons]
    omega

end Expr

/-! ### The printed text -/

namespace Lexer

/-- The tokens can be read off the text, wherever it starts. -/
def Lays (ts : List Token) (cs : List Char) : Prop :=
  ∀ offset, ∃ ls, Layout offset ls cs ∧ ls.map Lexeme.token = ts

lemma lays_nil : Lays [] [] := fun offset => ⟨[], .nil offset, rfl⟩

lemma Lays.blanks {ts : List Token} {cs : List Char} (h : Lays ts cs) (bs : List Char)
    (hbs : ∀ c ∈ bs, Text.isBlank c = true) : Lays ts (bs ++ cs) := by
  intro offset
  obtain ⟨ls, hls, hts⟩ := h (offset + Text.width bs)
  exact ⟨ls, .blanks hbs hls, hts⟩

lemma Lays.space {ts : List Token} {cs : List Char} (h : Lays ts cs) : Lays ts (' ' :: cs) :=
  h.blanks [' '] (by simp [Text.isBlank])

lemma Spells.lays {t : Token} {ts : List Token} {w rest : List Char} (hw : Spells t w rest)
    (h : Lays ts rest) : Lays (t :: ts) (w ++ rest) := by
  intro offset
  obtain ⟨ls, hls, rfl⟩ := h (offset + Text.width w)
  exact ⟨_, .token hw hls, rfl⟩

lemma spells_name {name : String} (h : IsName name) {rest : List Char}
    (hrest : Stops isIdent rest) : Spells (.ident name) name.toList rest := by
  simpa using Spells.ident h.1 h.2 hrest

lemma isAlpha_word (k : Keyword) : ∀ c ∈ k.word.toList, c.isAlpha = true := by
  cases k <;> simp [Keyword.word]

lemma ofWord?_word (k : Keyword) : Keyword.ofWord? k.word.toList = some k := by
  cases k <;> rfl

lemma spells_word {k : Keyword} {t : Token} (ht : k.token none = .ok t) {rest : List Char}
    (hrest : Apart rest) : Spells t ("\\" ++ k.word).toList rest := by
  have h : Spells t ('\\' :: k.word.toList) rest :=
    .plain (isAlpha_word k) (ofWord?_word k) ht hrest.stops_alpha hrest.not_brace
  simpa using h

lemma spells_withParameter {k : Keyword} {t : Token} {text : String} (h : IsParameter text)
    (ht : k.token (some text) = .ok t) (rest : List Char) :
    Spells t (withParameter k.word text).toList rest := by
  have hbody : k.token (some (String.ofList (Text.trim text.toList))) = .ok t := by
    rw [Text.trim_eq_self h.1, String.ofList_toList, ht]
  have := Spells.parameter rest (isAlpha_word k) (ofWord?_word k) h.2 hbody
  simpa [withParameter] using this

lemma spells_unary {op : UnaryOp} (h : IsParameter op.parameter) (rest : List Char) :
    Spells (.unary op) op.label.toList rest := by
  cases op with
  | select text => exact spells_withParameter (k := .select) h rfl rest
  | project text => exact spells_withParameter (k := .project) h rfl rest
  | rename text => exact spells_withParameter (k := .rename) h rfl rest

lemma spells_binary {op : BinaryOp} (h : ∀ text ∈ op.parameter?, IsParameter text)
    {rest : List Char} (hrest : Apart rest) : Spells (.binary op) op.label.toList rest := by
  cases op with
  | join condition =>
    cases condition with
    | none => exact spells_word (k := .join) rfl hrest
    | some text => exact spells_withParameter (k := .join) (h text rfl) rfl _
  | cross => exact spells_word (k := .cross) rfl hrest
  | union => exact spells_word (k := .union) rfl hrest
  | diff => exact spells_word (k := .diff) rfl hrest
  | intersect => exact spells_word (k := .intersect) rfl hrest

end Lexer

namespace Expr

open Lexer

lemma lays_parenthesized {e : Expr} {text : String}
    (htext : ∀ us rest, Stops isIdent rest → Lays us rest →
      Lays (e.tokens ++ us) (text.toList ++ rest))
    {us : List Token} {rest : List Char} (hrest : Stops isIdent rest) (h : Lays us rest) :
    Lays (e.bracketed e.tokens ++ us) ((e.parenthesized text).toList ++ rest) := by
  cases e with
  | relation name => exact htext us rest hrest h
  | unary op e => exact htext us rest hrest h
  | binary op l r =>
    have hclose := (Spells.rparen rest).lays h
    have hinner := htext _ _ (stops_cons.mpr (by decide)) hclose
    simpa [bracketed, parenthesized] using (Spells.lparen _).lays hinner

lemma lays_print {e : Expr} (he : e.WellFormed) (us : List Token) (rest : List Char)
    (hrest : Stops isIdent rest) (h : Lays us rest) :
    Lays (e.tokens ++ us) (e.print.toList ++ rest) := by
  induction e generalizing us rest with
  | relation name => exact (spells_name he hrest).lays h
  | unary op e ih =>
    have hoperand := lays_parenthesized (ih he.2) hrest h
    simpa [tokens, print] using (spells_unary he.1 _).lays hoperand.space
  | binary op l r ihl ihr =>
    have hright := lays_parenthesized (ihr he.2.2) hrest h
    have hop := (spells_binary he.1 (apart_cons (by decide))).lays hright.space
    have hleft := ihl he.2.1 _ _ (stops_cons.mpr (by decide)) hop.space
    simpa [tokens, print] using hleft

lemma lays_print_nil {e : Expr} (he : e.WellFormed) : Lays e.tokens e.print.toList := by
  simpa using lays_print he [] [] (stops_nil _) lays_nil

end Expr

/-- The number of parentheses opened in a text, those in parameters apart. -/
def Lexer.parentheses (text : String) : Nat :=
  match lex text.toList with
  | .ok ls => (ls.map Lexeme.token).count .lparen
  | .error _ => 0

lemma Lexer.parentheses_of_layout {text : String} {ls : List Lexeme}
    (h : Layout 0 ls text.toList) :
    parentheses text = (ls.map Lexeme.token).count .lparen := by
  rw [parentheses, lex_eq_ok_iff.mpr h]

namespace Expr

open Lexer

lemma wellFormed_of_parse {text : String} {e : Expr} (h : parse text = .ok e) :
    e.WellFormed := by
  obtain ⟨ls, hls, he⟩ := parse_eq_ok_iff.mp h
  exact he.wellFormed hls.wellFormed

lemma parse_print {e : Expr} (h : e.WellFormed) : parse e.print = .ok e := by
  obtain ⟨ls, hls, hts⟩ := lays_print_nil h 0
  exact parse_eq_ok_iff.mpr ⟨ls, hls, hts ▸ e.derives_tokens.1⟩

lemma parentheses_print_le {text : String} {e : Expr} (h : parse text = .ok e) :
    parentheses e.print ≤ parentheses text := by
  obtain ⟨ls, hls, hts⟩ := lays_print_nil (wellFormed_of_parse h) 0
  obtain ⟨us, hus, he⟩ := parse_eq_ok_iff.mp h
  rw [parentheses_of_layout hls, parentheses_of_layout hus, hts]
  exact he.count_le.1

/-- **The expressions that can be read are the well-formed ones. Each of them is read back from its
printed text, and no text of it has fewer parentheses.** -/
theorem parsed_iff_wellFormed (e : Expr) :
    ((∃ text, parse text = .ok e) ↔ e.WellFormed) ∧
      (e.WellFormed → parse e.print = .ok e) ∧
      ∀ text, parse text = .ok e → parentheses e.print ≤ parentheses text := by
  refine ⟨⟨?_, ?_⟩, parse_print, fun text => parentheses_print_le⟩
  · rintro ⟨text, h⟩
    exact wellFormed_of_parse h
  · exact fun h => ⟨e.print, parse_print h⟩

/-- Binary operations on both sides and under a unary operator, which has a brace and a quote in
its parameter. -/
def branching : Expr :=
  binary .diff
    (unary (.select "a = '\x7d' or b = '\"'")
      (binary (.join none) (relation "R") (relation "s.T")))
    (binary .union (relation "U") (relation "V_1"))

theorem branching_parsed :
    branching.WellFormed ∧
      branching.print =
        "\\select_\x7ba = '\x7d' or b = '\"'\x7d (R \\join s.T) \\diff (U \\union V_1)" ∧
      parse branching.print = .ok branching := by
  have h : branching.WellFormed := by decide +kernel
  exact ⟨h, by decide +kernel, (parsed_iff_wellFormed branching).2.1 h⟩

end Expr

end RelAlgebra

import RelAlgebra.Proofs.Expr.Printing
import RelAlgebra.Proofs.Statement.Reading
import RelAlgebra.Proofs.Token.Reached

/-!
Where syntax errors are reported.

A fault in the tokens of a text is reported at the start of one of them, or at the end of the text,
and the tokens before that place can be read. Tokens that can be read can be continued to an
expression: by an operand if one is due, and by a closing parenthesis for each open one. A blank
after the place keeps the last token before it from running on. So what stands before the place of
an error is the start of a statement.
-/

namespace RelAlgebra

namespace Expr

namespace Reading

/-! ### Open parentheses -/

/-- The parentheses that are open, the innermost first. -/
def parens : Reading → List Open
  | operand _ ps => ps
  | operator _ ps => ps

lemma mem_parens_step {s s' : Reading} {l : Lexeme} (h : s.step l = .ok s') {p : Open}
    (hp : p ∈ s'.parens) : p ∈ s.parens ∨ l = ⟨p.offset, .lparen⟩ := by
  obtain ⟨offset, t⟩ := l
  cases s with
  | operand ws ps =>
    cases t with
    | lparen =>
      cases h
      rcases List.mem_cons.mp hp with rfl | hp
      · exact .inr rfl
      · exact .inl hp
    | ident | unary => cases h; exact .inl hp
    | _ => cases h
  | operator e ps =>
    cases t with
    | binary => cases h; exact .inl hp
    | rparen =>
      cases ps with
      | nil => cases h
      | cons q ps => cases h; exact .inl (List.mem_cons_of_mem q hp)
    | _ => cases ps <;> cases h

lemma mem_parens_run {s s' : Reading} {ls : List Lexeme} (h : run s ls = .ok s') {p : Open}
    (hp : p ∈ s'.parens) : p ∈ s.parens ∨ ⟨p.offset, .lparen⟩ ∈ ls := by
  induction ls generalizing s with
  | nil => cases h; exact .inl hp
  | cons l ls ih =>
    obtain ⟨m, hm, hrun⟩ := run_cons_eq_ok_iff.mp h
    rcases ih hrun with hp | hmem
    · rcases mem_parens_step hm hp with hp | rfl
      · exact .inl hp
      · exact .inr List.mem_cons_self
    · exact .inr (List.mem_cons_of_mem l hmem)

/-! ### Places of errors -/

/-- The tokens can be read, whatever is still to come. -/
def Readable (ls : List Lexeme) : Prop := ∃ s, run .start ls = .ok s

lemma Readable.of_append {as bs : List Lexeme} (h : Readable (as ++ bs)) : Readable as := by
  cases has : run .start as with
  | ok s => exact ⟨s, has⟩
  | error e =>
    obtain ⟨s, hs⟩ := h
    obtain ⟨as, l, cs, m, rfl, hm, hl⟩ := exists_step_of_run_error has
    rw [List.append_assoc, run_append_of_run hm, List.cons_append] at hs
    obtain ⟨m', hm', -⟩ := run_cons_eq_ok_iff.mp hs
    rw [hl] at hm'
    cases hm'

/-- The byte offset where the tokens start; without any it is that of the end of the text. -/
def startOf (last : Nat) : List Lexeme → Nat
  | [] => last
  | l :: _ => l.offset

lemma step_error_offset {s : Reading} {l : Lexeme} {e : SyntaxError} (h : s.step l = .error e) :
    e.offset = l.offset ∨ ∃ p ∈ s.parens, e.offset = p.offset := by
  obtain ⟨offset, t⟩ := l
  cases s with
  | operand ws ps =>
    cases t with
    | rparen | binary | command => cases h; exact .inl rfl
    | _ => cases h
  | operator a ps =>
    cases ps with
    | nil =>
      cases t with
      | binary => cases h
      | _ => cases h; exact .inl rfl
    | cons p ps =>
      cases t with
      | binary | rparen => cases h
      | _ => cases h; exact .inr ⟨p, List.mem_cons_self, rfl⟩

lemma finish_error_offset {s : Reading} {last : Nat} {e : SyntaxError}
    (h : s.finish last = .error e) :
    e.offset = last ∨ ∃ p ∈ s.parens, e.offset = p.offset := by
  rcases s with _ | ⟨a, _ | ⟨p, ps⟩⟩
  · cases h
    exact .inl rfl
  · cases h
  · cases h
    exact .inr ⟨p, List.mem_cons_self, rfl⟩

lemma exists_before_paren {as : List Lexeme} {s : Reading} (h : run .start as = .ok s) {p : Open}
    (hp : p ∈ s.parens) (last : Nat) (bs : List Lexeme) :
    ∃ cs ds, as ++ bs = cs ++ ds ∧ Readable cs ∧ p.offset = startOf last ds := by
  have hmem : ⟨p.offset, .lparen⟩ ∈ as := (mem_parens_run h hp).resolve_left List.not_mem_nil
  obtain ⟨cs, ds, rfl⟩ := List.append_of_mem hmem
  exact ⟨cs, ⟨p.offset, .lparen⟩ :: ds ++ bs, by simp, Readable.of_append ⟨s, h⟩, rfl⟩

end Reading

open Reading

lemma ofTokens_error_offset {last : Nat} {ls : List Lexeme} {e : SyntaxError}
    (h : ofTokens last ls = .error e) :
    ∃ as bs, ls = as ++ bs ∧ Readable as ∧ e.offset = startOf last bs := by
  rw [ofTokens] at h
  cases hrun : run .start ls with
  | error e' =>
    rw [hrun] at h
    obtain rfl : e' = e := Except.error.inj h
    obtain ⟨as, l, bs, s, rfl, has, hl⟩ := exists_step_of_run_error hrun
    rcases step_error_offset hl with hoffset | ⟨p, hp, hoffset⟩
    · exact ⟨as, l :: bs, rfl, ⟨s, has⟩, hoffset⟩
    · rw [hoffset]
      exact exists_before_paren has hp last _
  | ok s =>
    rw [hrun] at h
    rcases finish_error_offset h with hoffset | ⟨p, hp, hoffset⟩
    · exact ⟨ls, [], by simp, ⟨s, hrun⟩, hoffset⟩
    · rw [hoffset]
      simpa using exists_before_paren hrun hp last []

/-! ### Completion -/

namespace Reading

/-- Tokens that complete an expression: an operand if one is due, and the closing parentheses. -/
def completion : Reading → List Token
  | operand _ ps => .ident "R" :: List.replicate ps.length .rparen
  | operator _ ps => List.replicate ps.length .rparen

lemma run_closing (e : Expr) {ps : List Open} {ls : List Lexeme}
    (hls : ls.map Lexeme.token = List.replicate ps.length .rparen) :
    ∃ e', run (.operator e ps) ls = .ok (.operator e' []) := by
  induction ps generalizing e ls with
  | nil =>
    rw [List.map_eq_nil_iff.mp hls]
    exact ⟨e, rfl⟩
  | cons p ps ih =>
    obtain ⟨⟨offset, t⟩, ls, rfl, ht, hrest⟩ := List.map_eq_cons_iff.mp hls
    cases ht
    obtain ⟨e', he'⟩ := ih (attach e p.waiting) hrest
    exact ⟨e', (run_cons_of_step rfl ls).trans he'⟩

lemma run_completion (s : Reading) {ls : List Lexeme} (hls : ls.map Lexeme.token = s.completion) :
    ∃ e, run s ls = .ok (.operator e []) := by
  cases s with
  | operand ws ps =>
    obtain ⟨⟨offset, t⟩, ls, rfl, ht, hrest⟩ := List.map_eq_cons_iff.mp hls
    cases ht
    obtain ⟨e, he⟩ := run_closing (attach (.relation "R") ws) hrest
    exact ⟨e, (run_cons_of_step rfl ls).trans he⟩
  | operator e ps => exact run_closing e hls

lemma lays_closing (n : Nat) :
    Lexer.Lays (List.replicate n .rparen) (List.replicate n ')') := by
  induction n with
  | zero => exact Lexer.lays_nil
  | succ n ih => exact (Lexer.Spells.rparen _).lays ih

lemma exists_lays_completion (s : Reading) : ∃ cs, Lexer.Lays s.completion cs := by
  cases s with
  | operand ws ps =>
    have hstops : Lexer.Stops Lexer.isIdent (List.replicate ps.length ')') := by
      intro c hc
      rw [List.eq_of_mem_replicate (List.mem_of_mem_head? hc)]
      decide
    exact ⟨_, (Lexer.spells_name (by decide +kernel) hstops).lays (lays_closing _)⟩
  | operator e ps => exact ⟨_, lays_closing _⟩

end Reading

end Expr

/-! ### Texts -/

open Expr.Reading in
lemma Lexer.Layout.exists_reaches_start {as bs : List Lexeme} {cs : List Char}
    (h : Layout 0 (as ++ bs) cs) :
    ∃ w rest, cs = w ++ rest ∧ Reaches 0 as w rest ∧
      startOf (Text.width cs) bs = Text.width w := by
  cases bs with
  | nil =>
    rw [List.append_nil] at h
    exact ⟨cs, [], by simp, h.reaches, rfl⟩
  | cons l bs =>
    obtain ⟨w, rest, hcs, hw, hoffset⟩ := h.exists_reaches
    exact ⟨w, rest, hcs, hw, by rw [← Nat.zero_add (Text.width w), ← hoffset, startOf]⟩

namespace Statement

open Expr.Reading

/-- The tokens before an error are the first ones of a statement, whatever the error is. -/
lemma exists_continuation {last : Nat} {ls : List Lexeme} {e : SyntaxError}
    (h : ofTokens last ls = .error e) :
    ∃ as bs us cs, ls = as ++ bs ∧ e.offset = startOf last bs ∧ Lexer.Lays us cs ∧
      ∀ last' vs, vs.map Lexeme.token = us → ∃ st, ofTokens last' (as ++ vs) = .ok st := by
  rw [ofTokens.eq_def] at h
  split at h
  · cases h
  · next offset c next rest =>
    -- a command stands alone
    cases h
    refine ⟨[⟨offset, .command c⟩], next :: rest, [], [], rfl, rfl, Lexer.lays_nil, ?_⟩
    rintro last' vs hvs
    rw [List.map_eq_nil_iff.mp hvs]
    exact ⟨.command c, rfl⟩
  · have herror : Expr.ofTokens last ls = .error e := by
      cases he : Expr.ofTokens last ls with
      | error e' => rw [he] at h; cases h; rfl
      | ok a => rw [he] at h; cases h
    obtain ⟨as, bs, hls, ⟨s, hs⟩, hoffset⟩ := Expr.ofTokens_error_offset herror
    obtain ⟨cs, hcs⟩ := s.exists_lays_completion
    refine ⟨as, bs, s.completion, cs, hls, hoffset, hcs, fun last' vs hvs => ?_⟩
    obtain ⟨a, ha⟩ := s.run_completion hvs
    have hread : Expr.ofTokens last' (as ++ vs) = .ok a := by
      rw [Expr.ofTokens, run_append_of_run hs, ha]
      rfl
    exact ⟨.expr a, Expr.statement_ofTokens_eq_expr_iff.mpr (Expr.ofTokens_eq_ok_iff.mp hread)⟩

lemma exists_parse_of_error {text : String} {ls : List Lexeme} {e : SyntaxError}
    (hlex : Lexer.lex text.toList = .ok ls) (h : parse text = .error e) :
    ∃ before after, text = before ++ after ∧ Text.width before.toList = e.offset ∧
      ∃ t st, parse (before ++ t) = .ok st := by
  rw [parse_of_lex hlex] at h
  obtain ⟨as, bs, us, cs, rfl, hoffset, hlays, hst⟩ := exists_continuation h
  obtain ⟨w, rest, htext, hw, hstart⟩ := (Lexer.lex_eq_ok_iff.mp hlex).exists_reaches_start
  obtain ⟨vs, hvs, htokens⟩ := hlays.space (0 + Text.width w)
  have hlayout : Lexer.Layout 0 (as ++ vs) (w ++ ' ' :: cs) := (hw.before_space cs).layout hvs
  have hlex' :
      Lexer.lex (String.ofList w ++ String.ofList (' ' :: cs)).toList = .ok (as ++ vs) := by
    rw [String.toList_append, String.toList_ofList, String.toList_ofList]
    exact Lexer.lex_eq_ok_iff.mpr hlayout
  obtain ⟨st, hok⟩ := hst _ vs htokens
  refine ⟨String.ofList w, String.ofList rest, ?_, ?_, String.ofList (' ' :: cs), st,
    (parse_of_lex hlex').trans hok⟩
  · apply String.toList_inj.mp
    simp [htext]
  · rw [String.toList_ofList, hoffset, hstart]

/-- **A syntax error is reported at the start of a character or at the end of the text.** If the
text consists of tokens, what stands before that place is the start of a statement. -/
theorem error_offset_viable (text : String) (err : Error)
    (h : (parse text).mapError SyntaxError.toError = .error err) :
    ∃ offset fault before after, err = .parse offset fault ∧ offset ≤ Text.width text.toList ∧
      text = before ++ after ∧ Text.width before.toList = offset ∧
      ((∃ ls, Lexer.lex text.toList = .ok ls) → ∃ t st, parse (before ++ t) = .ok st) := by
  obtain ⟨e, he, rfl⟩ : ∃ e, parse text = .error e ∧ err = e.toError := by
    cases hparse : parse text with
    | error e => rw [hparse] at h; cases h; exact ⟨e, rfl, rfl⟩
    | ok st => rw [hparse] at h; cases h
  have hplace : ∃ before after, text = before ++ after ∧ Text.width before.toList = e.offset ∧
      ((∃ ls, Lexer.lex text.toList = .ok ls) → ∃ t st, parse (before ++ t) = .ok st) := by
    cases hlex : Lexer.lex text.toList with
    | ok ls =>
      obtain ⟨before, after, htext, hwidth, hcontinued⟩ := exists_parse_of_error hlex he
      exact ⟨before, after, htext, hwidth, fun _ => hcontinued⟩
    | error e' =>
      rw [parse, hlex] at he
      obtain rfl : e' = e := Except.error.inj he
      obtain ⟨ts, w, c, rest, htext, -, hoffset, -⟩ := Lexer.exists_reaches_of_error hlex
      refine ⟨String.ofList w, String.ofList (c :: rest), ?_, ?_, ?_⟩
      · apply String.toList_inj.mp
        simp [htext]
      · rw [String.toList_ofList, hoffset, Nat.zero_add]
      · rintro ⟨ls, hls⟩
        cases hls
  obtain ⟨before, after, htext, hwidth, hcontinued⟩ := hplace
  refine ⟨e.offset, e.fault, before, after, rfl, ?_, htext, hwidth, hcontinued⟩
  rw [← hwidth, htext, String.toList_append, Text.width_append]
  omega

/-- A parenthesis that is not closed, after a wide blank. -/
def unclosed : String := "R\u3000\\union (S \\diff T U"

theorem unclosed_viable :
    (parse unclosed).mapError SyntaxError.toError = .error (.parse 11 .unbalancedParenthesis) ∧
      ∃ before after, unclosed = before ++ after ∧ Text.width before.toList = 11 ∧
        ∃ t st, parse (before ++ t) = .ok st := by
  have hparse : (parse unclosed).mapError SyntaxError.toError =
      .error (.parse 11 .unbalancedParenthesis) := by decide +kernel
  have hlex : ∃ ls, Lexer.lex unclosed.toList = .ok ls :=
    ⟨[⟨0, .ident "R"⟩, ⟨4, .binary .union⟩, ⟨11, .lparen⟩, ⟨12, .ident "S"⟩, ⟨14, .binary .diff⟩,
      ⟨20, .ident "T"⟩, ⟨22, .ident "U"⟩], by decide +kernel⟩
  obtain ⟨offset, fault, before, after, herr, -, htext, hwidth, hcontinued⟩ :=
    error_offset_viable unclosed _ hparse
  cases herr
  exact ⟨hparse, before, after, htext, hwidth, hcontinued hlex⟩

end Statement

end RelAlgebra
